import AifyComms.TextLines
import Mathlib.Data.List.Infix

/-!
The workspace of a spawn and the root it belongs to: `_lexical_key`,
`_normalize_workspace_for_environment`, `_workspace_root_for` and `_workspace_for_environment`
of `api_core/workspace.py`, with `posixpath.normpath`.

The code compares normalised texts. What it decides is stated on components: a path is
resolved one component at a time, and lies below a root when the root's components are its
first ones. Both separators separate, on every host.
-/

namespace AifyComms.WorkspaceRoots
open TextLines PyText

/-! ### Lower case -/

/-- A drive letter and a colon. -/
def isDrive (component : Text) : Bool :=
  match component with
  | [letter, ':'] => letter.isAlpha
  | _ => false

/-- `str.lower`, by what is used of it. It reads a text on either side of a slash by itself. -/
structure Lowering where
  lower : Text → Text
  nil : lower [] = []
  blank : ∀ {text}, lower text = [] → text = []
  slash : ∀ before after, lower (before ++ '/' :: after) = lower before ++ '/' :: lower after
  free : ∀ {text}, '/' ∉ text → '/' ∉ lower text
  dot : ∀ {text}, lower text = lower ['.'] → text = ['.']
  drive : ∀ {text}, isDrive text = true → isDrive (lower text) = true

/-- A host where case is meaning. -/
def Lowering.none : Lowering where
  lower := id
  nil := rfl
  blank := id
  slash _ _ := rfl
  free := id
  dot := id
  drive := id

/-! ### The source -/

/-- The keys of an environment that are read here, with an empty text for an absent one. -/
structure Environment where
  id : Text
  os : Text
  kind : Text
  machineId : Text
  cwdRoots : List Text

/-- `[str(root or "").strip() for root in ... if str(root or "").strip()]`. -/
def Environment.roots (environment : Environment) : List Text :=
  (environment.cwdRoots.map stripText).filter (· ≠ [])

/-- `re.match(r"^[A-Za-z]:[\\/]", root)`. -/
def opensDrive (root : Text) : Bool :=
  match root with
  | letter :: ':' :: separator :: _ => letter.isAlpha && (separator = '\\' || separator = '/')
  | _ => false

/-- `_environment_uses_windows_paths`. -/
def usesWindowsPaths (lowering : Lowering) (environment : Environment) : Bool :=
  let text := lowering.lower ([' '].intercalate
    [environment.id, environment.os, environment.kind, environment.machineId])
  decide ("win32".toList <:+: text) || decide ("windows".toList <:+: text) ||
    environment.roots.any opensDrive

def forward (c : Char) : Char := if c = '\\' then '/' else c

/-- `value.replace("\\", "/")`. -/
def slashed (value : Text) : Text := value.map forward

def dot : Text := ['.']

def dotDot : Text := ['.', '.']

/-- `initial_slashes`: POSIX allows one or two, and takes more for one. -/
def initialSlashes (path : Text) : Nat :=
  if ['/'].isPrefixOf path then
    if ['/', '/'].isPrefixOf path && !(['/', '/', '/'].isPrefixOf path) then 2 else 1
  else 0

/-- One pass of the loop of `posixpath.normpath`. -/
def normStep (slashes : Nat) (newComps : List Text) (comp : Text) : List Text :=
  if comp = [] ∨ comp = dot then newComps
  else if comp ≠ dotDot ∨ (slashes = 0 ∧ newComps = []) ∨ newComps.getLast? = some dotDot then
    newComps ++ [comp]
  else newComps.dropLast

def normComps (path : Text) : List Text :=
  (path.splitOn '/').foldl (normStep (initialSlashes path)) []

/-- `posixpath.normpath`. -/
def normpath (path : Text) : Text :=
  let joined := List.replicate (initialSlashes path) '/' ++ ['/'].intercalate (normComps path)
  if joined = [] then dot else joined

/-- `_lexical_key`. -/
def lexicalKey (value : Text) : Text := if value = [] then value else normpath value

/-- `text.rstrip("/")`. -/
def rstripSlash (text : Text) : Text := text.rdropWhile (· = '/')

section
variable (lowering : Lowering) (environment : Environment)

/-- `_normalize_workspace_for_environment`. -/
def normalizeWorkspace (workspace : Text) : Text :=
  let value := stripText workspace
  if value = [] then []
  else if usesWindowsPaths lowering environment then value
  else slashed value

/-- `str.lower` on Windows, and no change elsewhere. -/
def folding : Lowering :=
  if usesWindowsPaths lowering environment then lowering else Lowering.none

/-- `workspace_key` and `root_key`. -/
def key (value : Text) : Text :=
  (folding lowering environment).lower (rstripSlash (lexicalKey (slashed value)))

def inside (workspaceKey rootKey : Text) : Bool :=
  decide (workspaceKey = rootKey) || (rootKey ++ ['/']).isPrefixOf workspaceKey

/-- The detail of the 400. -/
def refusal (workspace : Text) : Text :=
  "Workspace \"".toList ++ workspace ++
    "\" is outside the roots advertised by environment \"".toList ++ environment.id ++ ['"']

/-- `_workspace_root_for`. -/
def workspaceRootFor (workspace : Text) : Except Text Text :=
  let workspaceValue := normalizeWorkspace lowering environment workspace
  if workspaceValue = [] ∨ environment.roots = [] then .ok (environment.roots.headD [])
  else
    match environment.roots.find? fun root =>
      inside (key lowering environment workspaceValue) (key lowering environment root) with
    | some root => .ok root
    | none => .error (refusal environment workspaceValue)

/-- `_workspace_for_environment`. -/
def workspaceForEnvironment (requested fallback : Text) : Except Text (Text × Text) :=
  let given := normalizeWorkspace lowering environment (if requested = [] then fallback else requested)
  let workspace := if given = [] then environment.roots.headD [] else given
  match workspaceRootFor lowering environment workspace with
  | .ok root => .ok (if workspace = [] ∧ root ≠ [] then root else workspace, root)
  | .error detail =>
      if requested ≠ [] then .error detail
      else
        let first := normalizeWorkspace lowering environment (environment.roots.headD [])
        match workspaceRootFor lowering environment first with
        | .ok root => .ok (if first = [] ∧ root ≠ [] then root else first, root)
        | .error detail => .error detail

end

/-! ### Resolution by components -/

/-- One component onwards. A `..` leaves the last component unless `floor` of them are left;
there it stays put, or, in a path that starts nowhere, is kept. -/
def descend (keep : Bool) (floor : Nat) (location : List Text) (component : Text) : List Text :=
  if component = [] ∨ component = dot then location
  else if component = dotDot then
    if floor < location.length ∧ location.getLast? ≠ some dotDot then location.dropLast
    else if keep then location ++ [component] else location
  else location ++ [component]

def resolve (keep : Bool) (floor : Nat) (components : List Text) : List Text :=
  components.foldl (descend keep floor) []

/-- What a path starts at. -/
inductive Anchor where
  | slash
  | drive
  | nowhere
  deriving DecidableEq

def rooted (path : Text) : Bool := ['/'].isPrefixOf (slashed path)

def components (path : Text) : List Text := (slashed path).splitOn '/'

/-- A path resolved with a drive letter as an ordinary leading component. -/
def spelled (path : Text) : Bool × List Text :=
  (rooted path, resolve (!rooted path) 0 (components path))

def anchor (windows : Bool) (path : Text) : Anchor :=
  if rooted path then .slash
  else if windows && ((components path).head?.any isDrive) then .drive
  else .nowhere

/-- The components that `..` cannot leave: the drive, or the server and its share. -/
def volume (windows : Bool) (path : Text) : Nat :=
  match anchor windows path with
  | .slash => if windows && decide (initialSlashes (slashed path) = 2) then 2 else 0
  | .drive => 1
  | .nowhere => 0

/-- A path resolved as its host does it. -/
def located (windows : Bool) (path : Text) : Anchor × List Text :=
  (anchor windows path,
    resolve (decide (anchor windows path = .nowhere)) (volume windows path) (components path))

/-- The root or a path below it. -/
def Below {Start : Type} (fold : Text → Text) (path root : Start × List Text) : Prop :=
  path.1 = root.1 ∧ root.2.map fold <+: path.2.map fold

/-- No `..` of the path is met with only `floor` components left. -/
def Stays (floor : Nat) : List Text → List Text → Prop
  | _, [] => True
  | location, component :: rest =>
      (component = dotDot → floor < location.length) ∧
        Stays floor (descend false floor location component) rest

/-- A path whose `..` do not climb above its drive or share; one that starts nowhere is not left
with a drive in front. -/
def KeepsVolume (fold : Text → Text) (windows : Bool) (path : Text) : Prop :=
  match anchor windows path with
  | .slash => volume windows path = 0 ∨ Stays (volume windows path) [] (components path)
  | .drive => Stays 1 [] (components path)
  | .nowhere => windows = true →
      ∀ component ∈ (spelled path).2.head?, isDrive (fold component) = false

/-! ### The normal form resolves the path -/

theorem descend_free {floor : Nat} {location : List Text} (free : dotDot ∉ location)
    (component : Text) : dotDot ∉ descend false floor location component := by
  unfold descend
  split
  · exact free
  · split
    · split
      · exact fun member => free (List.mem_of_mem_dropLast member)
      · exact free
    · next other =>
      simp only [List.mem_append, List.mem_singleton, not_or]
      exact ⟨free, Ne.symm other⟩

theorem getLast?_ne {location : List Text} (free : dotDot ∉ location) :
    location.getLast? ≠ some dotDot := fun last => free (List.mem_of_getLast? last)

theorem normStep_eq_descend {slashes : Nat} {location : List Text}
    (free : slashes ≠ 0 → dotDot ∉ location) (component : Text) :
    normStep slashes location component = descend (decide (slashes = 0)) 0 location component := by
  unfold normStep descend
  by_cases skipped : component = [] ∨ component = dot
  · simp only [skipped, ↓reduceIte]
  · by_cases up : component = dotDot
    · -- `..` is kept by both only where nothing but `..` is left.
      subst up
      by_cases empty : location = []
      · by_cases relative : slashes = 0 <;> simp [skipped, empty, relative]
      · have left : 0 < location.length := List.length_pos_iff.mpr empty
        by_cases last : location.getLast? = some dotDot
        · have relative : slashes = 0 := by
            by_contra absolute
            exact getLast?_ne (free absolute) last
          simp [skipped, last, relative]
        · simp [skipped, empty, last, left]
    · simp only [skipped, up, ↓reduceIte, ne_eq, not_false_eq_true, true_or]

theorem foldl_normStep {slashes : Nat} (pieces : List Text) {location : List Text}
    (free : slashes ≠ 0 → dotDot ∉ location) :
    pieces.foldl (normStep slashes) location =
      pieces.foldl (descend (decide (slashes = 0)) 0) location := by
  induction pieces generalizing location with
  | nil => rfl
  | cons piece rest ih =>
      rw [List.foldl_cons, List.foldl_cons, normStep_eq_descend free, ih]
      intro absolute
      rw [decide_eq_false absolute]
      exact descend_free (free absolute) piece

theorem rooted_iff (path : Text) : rooted path = true ↔ initialSlashes (slashed path) ≠ 0 := by
  unfold rooted initialSlashes
  by_cases opens : ['/'].isPrefixOf (slashed path) = true
  · simp only [opens, ↓reduceIte, true_iff]
    split <;> decide
  · simp [opens]

theorem normComps_eq_spelled (path : Text) : normComps (slashed path) = (spelled path).2 := by
  have keeps : decide (initialSlashes (slashed path) = 0) = !rooted path := by
    rw [Bool.eq_iff_iff]
    have := rooted_iff path
    cases start : rooted path <;> simp_all
  have blank : initialSlashes (slashed path) ≠ 0 → dotDot ∉ ([] : List Text) := by simp
  rw [normComps, foldl_normStep _ blank, keeps]
  rfl

/-! ### The parts of a key -/

theorem mem_descend {keep : Bool} {floor : Nat} {location : List Text} {component found : Text}
    (member : found ∈ descend keep floor location component) :
    found ∈ location ∨ (found = component ∧ component ≠ [] ∧ component ≠ dot) := by
  unfold descend at member
  split at member
  · exact .inl member
  · next real =>
    have named := not_or.mp real
    have added : found ∈ location ++ [component] →
        found ∈ location ∨ (found = component ∧ component ≠ [] ∧ component ≠ dot) := by
      intro later
      rcases List.mem_append.mp later with earlier | last
      · exact .inl earlier
      · exact .inr ⟨List.mem_singleton.mp last, named⟩
    split at member
    · split at member
      · exact .inl (List.mem_of_mem_dropLast member)
      · split at member
        · exact added member
        · exact .inl member
    · exact added member

theorem mem_foldl_descend {keep : Bool} {floor : Nat} (pieces : List Text) {location : List Text}
    {found : Text} (member : found ∈ pieces.foldl (descend keep floor) location) :
    found ∈ location ∨ (found ∈ pieces ∧ found ≠ [] ∧ found ≠ dot) := by
  induction pieces generalizing location with
  | nil => exact .inl member
  | cons piece rest ih =>
      rcases ih member with early | ⟨later, real⟩
      · rcases mem_descend early with before | ⟨rfl, real⟩
        · exact .inl before
        · exact .inr ⟨List.mem_cons_self, real⟩
      · exact .inr ⟨List.mem_cons_of_mem _ later, real⟩

theorem not_mem_of_mem_splitOn {sep : Char} {text piece : Text} (member : piece ∈ text.splitOn sep) :
    sep ∉ piece := by
  induction text generalizing piece with
  | nil => simp_all
  | cons c text ih =>
      rw [List.splitOn_cons_eq_if_modifyHead] at member
      split at member
      · rcases List.mem_cons.mp member with rfl | later
        · exact List.not_mem_nil
        · exact ih later
      · next other =>
        cases parts : text.splitOn sep with
        | nil => exact absurd parts (List.splitOn_ne_nil _ _)
        | cons first rest =>
            rw [parts] at member ih
            rcases List.mem_cons.mp member with rfl | later
            · have apart : sep ≠ c := fun same => other (by simp [same])
              simpa [apart] using ih List.mem_cons_self
            · exact ih (List.mem_cons_of_mem _ later)

theorem mem_spelled {path component : Text} (member : component ∈ (spelled path).2) :
    '/' ∉ component ∧ component ≠ [] ∧ component ≠ dot := by
  rcases mem_foldl_descend _ member with absent | ⟨piece, real⟩
  · exact absurd absent List.not_mem_nil
  · exact ⟨not_mem_of_mem_splitOn piece, real⟩

/-- What stands between the slashes of a key. -/
def keyParts (slashes : Nat) (comps : List Text) : List Text :=
  if comps = [] then [if slashes = 0 then dot else []]
  else List.replicate slashes [] ++ comps

theorem splitOn_slashes (slashes : Nat) (text : Text) :
    (List.replicate slashes '/' ++ text).splitOn '/' =
      List.replicate slashes [] ++ text.splitOn '/' := by
  induction slashes with
  | zero => rfl
  | succ slashes ih =>
      have first := List.splitOn_append_cons_self (a := '/') [] (List.replicate slashes '/' ++ text)
      rw [List.replicate_succ, List.cons_append]
      rw [List.nil_append] at first
      rw [first, ih]
      rfl

theorem rstripSlash_replicate (slashes : Nat) : rstripSlash (List.replicate slashes '/') = [] := by
  rw [rstripSlash, List.rdropWhile_eq_nil_iff]
  intro c member
  simpa using List.eq_of_mem_replicate member

theorem rstripSlash_append {last : Text} (real : last ≠ []) (bare : '/' ∉ last) (front : Text) :
    rstripSlash (front ++ last) = front ++ last := by
  rw [rstripSlash, List.rdropWhile_eq_self_iff]
  intro some slash
  rw [List.getLast_append_of_ne_nil _ real, decide_eq_true_eq] at slash
  exact bare (slash ▸ List.getLast_mem real)

theorem intercalate_ends (front : List Text) (last : Text) :
    ∃ before, ['/'].intercalate (front ++ [last]) = before ++ last := by
  induction front with
  | nil => exact ⟨[], by simp⟩
  | cons first rest ih =>
      obtain ⟨before, joined⟩ := ih
      refine ⟨first ++ ['/'] ++ before, ?_⟩
      rw [List.cons_append, List.intercalate_cons_of_ne_nil (by simp), joined]
      simp

theorem splitOn_normal {slashes : Nat} {comps : List Text}
    (real : ∀ comp ∈ comps, '/' ∉ comp ∧ comp ≠ []) :
    (rstripSlash (if List.replicate slashes '/' ++ ['/'].intercalate comps = [] then dot
      else List.replicate slashes '/' ++ ['/'].intercalate comps)).splitOn '/' =
      keyParts slashes comps := by
  by_cases empty : comps = []
  · subst empty
    by_cases none : slashes = 0
    · subst none
      decide
    · have some : List.replicate slashes '/' ++ ['/'].intercalate [] ≠ [] := by
        simpa using none
      rw [if_neg some, List.intercalate_nil, List.append_nil, rstripSlash_replicate]
      simp [keyParts, none]
  · -- The last component ends the text, so no slash is stripped.
    obtain ⟨front, last, rfl⟩ : ∃ front last, comps = front ++ [last] :=
      ⟨comps.dropLast, comps.getLast empty, (List.dropLast_append_getLast empty).symm⟩
    have ⟨bare, named⟩ := real last (by simp)
    obtain ⟨before, joined⟩ := intercalate_ends front last
    have some : List.replicate slashes '/' ++ ['/'].intercalate (front ++ [last]) ≠ [] := by
      simp [joined, named]
    rw [if_neg some, keyParts, if_neg empty, joined, ← List.append_assoc,
      rstripSlash_append named bare, List.append_assoc, ← joined, splitOn_slashes,
      List.splitOn_intercalate _ (fun comp member => (real comp member).1) empty]

/-- The parts of the normal form are the resolved components, behind a part for each slash. -/
theorem splitOn_key {value : Text} (some : value ≠ []) :
    (rstripSlash (lexicalKey (slashed value))).splitOn '/' =
      keyParts (initialSlashes (slashed value)) (spelled value).2 := by
  have given : slashed value ≠ [] := by simpa [slashed] using some
  have real : ∀ comp ∈ normComps (slashed value), '/' ∉ comp ∧ comp ≠ [] := by
    intro comp member
    rw [normComps_eq_spelled] at member
    have facts := mem_spelled member
    exact ⟨facts.1, facts.2.1⟩
  rw [lexicalKey, if_neg given, ← normComps_eq_spelled]
  exact splitOn_normal real

theorem Lowering.intercalate (lowering : Lowering) (pieces : List Text) :
    lowering.lower (['/'].intercalate pieces) = ['/'].intercalate (pieces.map lowering.lower) := by
  have joined : ∀ (first second : Text) (rest : List Text),
      ['/'].intercalate (first :: second :: rest) =
        first ++ '/' :: ['/'].intercalate (second :: rest) := by
    intro first second rest
    simp
  induction pieces with
  | nil => exact lowering.nil
  | cons first rest ih =>
      cases rest with
      | nil => simp
      | cons second rest =>
          rw [joined, lowering.slash, ih]
          simp only [List.map_cons, joined]

theorem Lowering.splitOn (lowering : Lowering) (text : Text) :
    (lowering.lower text).splitOn '/' = (text.splitOn '/').map lowering.lower := by
  have free : ∀ piece ∈ (text.splitOn '/').map lowering.lower, '/' ∉ piece := by
    intro piece member
    obtain ⟨original, present, rfl⟩ := List.mem_map.mp member
    exact lowering.free (not_mem_of_mem_splitOn present)
  have some : (text.splitOn '/').map lowering.lower ≠ [] := by
    simp [List.splitOn_ne_nil]
  have whole : ['/'].intercalate (text.splitOn '/') = text := List.intercalate_splitOn '/'
  conv_lhs => rw [← whole, lowering.intercalate]
  exact List.splitOn_intercalate '/' free some

/-- The test on texts only admits whole components. -/
theorem splitOn_of_inside {workspaceKey rootKey : Text} (admitted : inside workspaceKey rootKey = true) :
    rootKey.splitOn '/' <+: workspaceKey.splitOn '/' := by
  simp only [inside, Bool.or_eq_true, decide_eq_true_eq, List.isPrefixOf_iff_prefix] at admitted
  rcases admitted with rfl | ⟨rest, rfl⟩
  · exact List.prefix_rfl
  · rw [List.append_assoc, List.singleton_append, List.splitOn_append_cons_self]
    exact List.prefix_append _ _

theorem prefix_behind_slashes {first second : List Text} (some : first ≠ []) (more : second ≠ [])
    (named : [] ∉ first) (real : [] ∉ second) (less greater : Nat)
    (pre : List.replicate less [] ++ first <+: List.replicate greater [] ++ second) :
    less = greater ∧ first <+: second := by
  obtain ⟨head, tail, rfl⟩ := List.exists_cons_of_ne_nil some
  obtain ⟨front, rest, rfl⟩ := List.exists_cons_of_ne_nil more
  induction less generalizing greater with
  | zero =>
      cases greater with
      | zero => exact ⟨rfl, pre⟩
      | succ greater =>
          have same := (List.cons_prefix_cons.mp pre).1
          exact absurd (same ▸ List.mem_cons_self) named
  | succ less ih =>
      cases greater with
      | zero =>
          have same := (List.cons_prefix_cons.mp pre).1
          exact absurd (same ▸ List.mem_cons_self) real
      | succ greater =>
          have ⟨counts, inner⟩ := ih greater (List.cons_prefix_cons.mp pre).2
          exact ⟨congrArg _ counts, inner⟩

/-- Components as resolution leaves them. -/
def Real (comps : List Text) : Prop := ∀ comp ∈ comps, comp ≠ [] ∧ comp ≠ dot

theorem Lowering.blank_not_mem (fold : Lowering) {comps : List Text} (real : Real comps) :
    [] ∉ comps.map fold.lower := by
  intro member
  obtain ⟨comp, present, blank⟩ := List.mem_map.mp member
  exact (real comp present).1 (fold.blank blank)

/-- A key below a root's key starts where the root does and has its components first. -/
theorem prefix_of_keyParts (fold : Lowering) {less greater : Nat} {first second : List Text}
    (named : Real first) (real : Real second)
    (pre : (keyParts less first).map fold.lower <+: (keyParts greater second).map fold.lower) :
    (less = 0 ↔ greater = 0) ∧ first.map fold.lower <+: second.map fold.lower := by
  have blank : fold.lower dot ≠ [] := fun empty => by cases fold.blank empty
  by_cases empty : first = []
  · -- A root without components: its key is the one part before the first slash.
    subst empty
    refine ⟨?_, List.nil_prefix⟩
    cases second with
    | nil =>
        cases less <;> cases greater <;> simp_all [keyParts, fold.nil]
    | cons head rest =>
        have headed : fold.lower head ≠ [] := fun none => (real head List.mem_cons_self).1 (fold.blank none)
        cases less <;> cases greater <;>
          simp_all [keyParts, fold.nil, List.replicate_succ, List.cons_prefix_cons]
  · by_cases none : second = []
    · exfalso
      subst none
      obtain ⟨head, rest, rfl⟩ := List.exists_cons_of_ne_nil empty
      have ⟨written, dotless⟩ := named head List.mem_cons_self
      have headed : fold.lower head ≠ [] := fun none => written (fold.blank none)
      have apart : fold.lower head ≠ fold.lower dot := fun same => dotless (fold.dot same)
      cases less <;> cases greater <;>
        simp_all [keyParts, fold.nil, List.replicate_succ, List.cons_prefix_cons]
    · simp only [keyParts, empty, none, ↓reduceIte, List.map_append, List.map_replicate,
        fold.nil] at pre
      have ⟨counts, inner⟩ := prefix_behind_slashes (by simpa using empty) (by simpa using none)
        (fold.blank_not_mem named) (fold.blank_not_mem real) _ _ pre
      exact ⟨by rw [counts], inner⟩

/-! ### What is admitted lies below -/

theorem isSpace_forward (c : Char) : isSpace (forward c) = isSpace c := by
  unfold forward
  split
  · next back =>
    subst back
    decide
  · rfl

theorem slashed_slashed (value : Text) : slashed (slashed value) = slashed value := by
  have again : forward ∘ forward = forward := funext fun c => by
    simp only [Function.comp, forward]
    split
    · decide
    · rfl
  rw [slashed, slashed, List.map_map, again]

theorem stripText_slashed (value : Text) : stripText (slashed value) = slashed (stripText value) := by
  have spaces : isSpace ∘ forward = isSpace := funext isSpace_forward
  simp only [stripText, lstrip, rstrip, slashed, List.dropWhile_map, ← List.map_reverse, spaces]

theorem stripText_stripText (value : Text) : stripText (stripText value) = stripText value :=
  dropWhile_ends_idempotent isSpace value

theorem Real.spelled (path : Text) : Real (spelled path).2 := fun _ member => (mem_spelled member).2

section
variable (lowering : Lowering) (environment : Environment)

theorem slashed_normalizeWorkspace (value : Text) :
    slashed (normalizeWorkspace lowering environment value) = slashed (stripText value) := by
  simp only [normalizeWorkspace]
  split
  · next blank => rw [blank]
  · split
    · rfl
    · exact slashed_slashed _

theorem stripText_normalizeWorkspace (value : Text) :
    stripText (normalizeWorkspace lowering environment value) =
      normalizeWorkspace lowering environment value := by
  simp only [normalizeWorkspace]
  split
  · rfl
  · split
    · exact stripText_stripText value
    · rw [stripText_slashed, stripText_stripText]

theorem normalizeWorkspace_eq_nil {value : Text} :
    normalizeWorkspace lowering environment value = [] ↔ stripText value = [] := by
  have same := congrArg List.length (slashed_normalizeWorkspace lowering environment value)
  simp only [slashed, List.length_map] at same
  rw [← List.length_eq_zero_iff, same, List.length_eq_zero_iff]

/-- A path with nothing to strip. -/
def Settled (value : Text) : Prop := value ≠ [] ∧ stripText value = value

theorem settled_root {root : Text} (declared : root ∈ environment.roots) : Settled root := by
  have ⟨stripped, named⟩ := List.mem_filter.mp declared
  obtain ⟨raw, _, rfl⟩ := List.mem_map.mp stripped
  exact ⟨by simpa using named, stripText_stripText raw⟩

theorem settled_normalizeWorkspace {value : Text} (given : stripText value ≠ []) :
    Settled (normalizeWorkspace lowering environment value) :=
  ⟨mt (normalizeWorkspace_eq_nil lowering environment).mp given,
    stripText_normalizeWorkspace lowering environment value⟩

/-- The comparison of keys, on components. -/
theorem below_of_inside {path root : Text} (some : path ≠ []) (declared : root ≠ [])
    (admitted : inside (key lowering environment path) (key lowering environment root) = true) :
    Below (folding lowering environment).lower (spelled path) (spelled root) := by
  have parts := splitOn_of_inside admitted
  rw [key, key, Lowering.splitOn, Lowering.splitOn, splitOn_key some, splitOn_key declared] at parts
  have ⟨starts, comps⟩ := prefix_of_keyParts _ (Real.spelled root) (Real.spelled path) parts
  refine ⟨?_, comps⟩
  rw [Bool.eq_iff_iff]
  exact (rooted_iff path).trans ((not_congr starts.symm).trans (rooted_iff root).symm)

theorem workspaceRootFor_ok {path root : Text} (settled : Settled path)
    (declared : environment.roots ≠ [])
    (found : workspaceRootFor lowering environment path = .ok root) :
    root ∈ environment.roots ∧
      Below (folding lowering environment).lower (spelled path) (spelled root) := by
  have given : normalizeWorkspace lowering environment path ≠ [] := by
    rw [ne_eq, normalizeWorkspace_eq_nil, settled.2]
    exact settled.1
  have keys : key lowering environment (normalizeWorkspace lowering environment path) =
      key lowering environment path := by
    rw [key, key, slashed_normalizeWorkspace, settled.2]
  simp only [workspaceRootFor, given, declared, or_self, ↓reduceIte, keys] at found
  split at found
  · next first chosen =>
    cases found
    have listed := List.mem_of_find?_eq_some chosen
    have admitted := List.find?_some chosen
    exact ⟨listed, below_of_inside lowering environment settled.1 (settled_root environment listed).1
      admitted⟩
  · cases found

end

/-! ### Paths that keep to their volume -/

theorem descend_eq_of_stays {keep : Bool} {floor : Nat} {location : List Text} {component : Text}
    (free : dotDot ∉ location) (stays : component = dotDot → floor < location.length) :
    descend false floor location component = descend keep 0 location component := by
  unfold descend
  by_cases up : component = dotDot
  · have above := stays up
    have some : 0 < location.length := Nat.zero_lt_of_lt above
    simp [up, above, some, getLast?_ne free]
  · simp [up]

theorem foldl_of_stays {keep : Bool} {floor : Nat} (pieces : List Text) {location : List Text}
    (free : dotDot ∉ location) (stays : Stays floor location pieces) :
    pieces.foldl (descend false floor) location = pieces.foldl (descend keep 0) location := by
  induction pieces generalizing location with
  | nil => rfl
  | cons piece rest ih =>
      rw [List.foldl_cons, List.foldl_cons, ← descend_eq_of_stays free stays.1]
      exact ih (descend_free free piece) stays.2

theorem head?_descend {location : List Text} {first : Text} (headed : location.head? = some first)
    (component : Text) : (descend false 1 location component).head? = some first := by
  obtain ⟨rest, rfl⟩ : ∃ rest, location = first :: rest := by
    cases location with
    | nil => cases headed
    | cons head rest => exact ⟨rest, by rw [Option.some.inj headed]⟩
  unfold descend
  split
  · rfl
  · split
    · split
      · next above =>
        cases rest with
        | nil => exact absurd above.1 (by simp)
        | cons second rest => rfl
      · rfl
    · rfl

theorem head?_foldl_descend (pieces : List Text) {location : List Text} {first : Text}
    (headed : location.head? = some first) :
    (pieces.foldl (descend false 1) location).head? = some first := by
  induction pieces generalizing location with
  | nil => exact headed
  | cons piece rest ih => exact ih (head?_descend headed piece)

section
variable {fold : Text → Text} {windows : Bool} {path root : Text}

theorem anchor_rooted (windows : Bool) (start : rooted path = true) : anchor windows path = .slash := by
  simp [anchor, start]

theorem anchor_not_rooted (windows : Bool) (relative : rooted path = false) :
    anchor windows path = .drive ∨ anchor windows path = .nowhere := by
  simp only [anchor, relative, Bool.false_eq_true, ↓reduceIte]
  split
  · exact .inl rfl
  · exact .inr rfl

theorem located_comps (keeps : KeepsVolume fold windows path) :
    (located windows path).2 = (spelled path).2 := by
  have blank : dotDot ∉ ([] : List Text) := List.not_mem_nil
  by_cases start : rooted path = true
  · have slash : anchor windows path = .slash := anchor_rooted windows start
    simp only [KeepsVolume, slash] at keeps
    simp only [located, spelled, resolve, slash, start, Bool.not_true, reduceCtorEq, decide_false]
    rcases keeps with none | stays
    · rw [none]
    · exact foldl_of_stays _ blank stays
  · have relative : rooted path = false := by simpa using start
    rcases anchor_not_rooted windows relative with drive | nowhere
    · simp only [KeepsVolume, drive] at keeps
      simp only [located, spelled, resolve, drive, volume, relative, Bool.not_false, reduceCtorEq,
        decide_false]
      exact foldl_of_stays _ blank keeps
    · simp [located, spelled, nowhere, volume, relative]

/-- The first component of a path on a drive is the drive. -/
theorem located_drive (drive : anchor windows path = .drive) :
    ∃ first, (located windows path).2.head? = some first ∧ isDrive first = true := by
  have opens : ∃ first, (components path).head? = some first ∧ isDrive first = true := by
    unfold anchor at drive
    split at drive
    · cases drive
    · split at drive
      · next both =>
        rw [Bool.and_eq_true, Option.any_eq_true] at both
        exact both.2
      · cases drive
  obtain ⟨first, headed, isOne⟩ := opens
  obtain ⟨rest, pieces⟩ : ∃ rest, components path = first :: rest := by
    cases listed : components path with
    | nil => rw [listed] at headed; cases headed
    | cons head rest =>
        rw [listed] at headed
        exact ⟨rest, by rw [Option.some.inj headed]⟩
  have real : ¬ (first = [] ∨ first = dot) ∧ first ≠ dotDot := by
    refine ⟨?_, ?_⟩
    · rintro (rfl | rfl) <;> cases isOne
    · rintro rfl
      cases isOne
  refine ⟨first, ?_, isOne⟩
  simp only [located, resolve, drive, volume, pieces, reduceCtorEq, decide_false, List.foldl_cons]
  apply head?_foldl_descend
  simp [descend, real.1, real.2]

end

/-- Where no `..` climbs above a drive or a share, the host's own resolution agrees. -/
theorem below_located {fold : Lowering} {windows : Bool} {path root : Text}
    (absolute : anchor windows root ≠ .nowhere)
    (keeps : KeepsVolume fold.lower windows path) (holds : KeepsVolume fold.lower windows root)
    (below : Below fold.lower (spelled path) (spelled root)) :
    Below fold.lower (located windows path) (located windows root) := by
  obtain ⟨starts, comps⟩ := below
  refine ⟨?_, by rwa [located_comps keeps, located_comps holds]⟩
  by_cases slash : rooted root = true
  · have same : rooted path = true := starts.trans slash
    simp only [located, anchor_rooted windows slash, anchor_rooted windows same]
  · have relative : rooted root = false := by simpa using slash
    have free : rooted path = false := starts.trans relative
    have drive := (anchor_not_rooted windows relative).resolve_right absolute
    -- The drive is the first component of both, so the path is not one that starts nowhere.
    obtain ⟨first, headed, isOne⟩ := located_drive drive
    rw [located_comps holds] at headed
    rcases anchor_not_rooted windows free with same | nowhere
    · simp only [located, drive, same]
    · exfalso
      obtain ⟨more, opens⟩ : ∃ more, (spelled root).2 = first :: more := List.head?_eq_some_iff.mp headed
      obtain ⟨rest, whole⟩ := comps
      rw [opens, List.map_cons, List.cons_append] at whole
      obtain ⟨second, others, pieces⟩ : ∃ second others, (spelled path).2 = second :: others := by
        cases listed : (spelled path).2 with
        | nil => rw [listed] at whole; cases whole
        | cons second others => exact ⟨second, others, rfl⟩
      rw [pieces, List.map_cons, List.cons.injEq] at whole
      simp only [KeepsVolume, nowhere] at keeps
      have windowed : windows = true := by
        by_contra other
        simp [anchor, relative, other] at drive
      have denied := keeps windowed second (by simp [pieces])
      rw [← whole.1, fold.drive isOne] at denied
      cases denied

/-! ### Both separators are one -/

theorem components_slashed (path : Text) : components (slashed path) = components path := by
  rw [components, slashed_slashed, components]

theorem rooted_slashed (path : Text) : rooted (slashed path) = rooted path := by
  rw [rooted, slashed_slashed, rooted]

theorem spelled_slashed (path : Text) : spelled (slashed path) = spelled path := by
  rw [spelled, rooted_slashed, components_slashed, spelled]

theorem anchor_slashed (windows : Bool) (path : Text) :
    anchor windows (slashed path) = anchor windows path := by
  rw [anchor, rooted_slashed, components_slashed, anchor]

theorem volume_slashed (windows : Bool) (path : Text) :
    volume windows (slashed path) = volume windows path := by
  rw [volume, anchor_slashed, slashed_slashed, volume]

theorem located_slashed (windows : Bool) (path : Text) :
    located windows (slashed path) = located windows path := by
  rw [located, anchor_slashed, volume_slashed, components_slashed, located]

theorem keepsVolume_slashed (fold : Text → Text) (windows : Bool) (path : Text) :
    KeepsVolume fold windows (slashed path) = KeepsVolume fold windows path := by
  rw [KeepsVolume, anchor_slashed, volume_slashed, components_slashed, spelled_slashed, KeepsVolume]

/-! ### The workspace of an environment -/

section
variable (lowering : Lowering) (environment : Environment)

/-- A path below a root: spelled out with a drive as an ordinary component, and, where neither
leaves its volume, as its host resolves it. -/
def Within (path root : Text) : Prop :=
  let fold := (folding lowering environment).lower
  let windows := usesWindowsPaths lowering environment
  Below fold (spelled path) (spelled root) ∧
    (KeepsVolume fold windows path → KeepsVolume fold windows root →
      Below fold (located windows path) (located windows root))

def Absolute (root : Text) : Prop :=
  anchor (usesWindowsPaths lowering environment) root ≠ .nowhere

variable {lowering environment}

theorem within_of_ok (absolute : ∀ root ∈ environment.roots, Absolute lowering environment root)
    (declared : environment.roots ≠ []) {path root : Text} (settled : Settled path)
    (found : workspaceRootFor lowering environment path = .ok root) :
    root ∈ environment.roots ∧ Within lowering environment path root := by
  have ⟨listed, below⟩ := workspaceRootFor_ok lowering environment settled declared found
  exact ⟨listed, below, fun keeps holds => below_located (absolute root listed) keeps holds below⟩

theorem within_slashed {path root : Text} :
    Within lowering environment (slashed path) root ↔ Within lowering environment path root := by
  simp only [Within, spelled_slashed, located_slashed, keepsVolume_slashed]

theorem headD_roots (declared : environment.roots ≠ []) :
    environment.roots.headD [] ∈ environment.roots := by
  obtain ⟨first, rest, listed⟩ := List.exists_cons_of_ne_nil declared
  rw [listed]
  exact List.mem_cons_self

/-- An answer is a root of the environment and a path that was judged against it. -/
theorem workspaceForEnvironment_ok (declared : environment.roots ≠ []) {requested fallback : Text}
    {workspace root : Text}
    (answered : workspaceForEnvironment lowering environment requested fallback = .ok (workspace, root)) :
    Settled workspace ∧ workspaceRootFor lowering environment workspace = .ok root ∧
      (stripText requested ≠ [] → workspace = normalizeWorkspace lowering environment requested) := by
  have first := settled_root environment (headD_roots declared)
  generalize supplied : (if requested = [] then fallback else requested) = value at answered
  have settled : Settled (if normalizeWorkspace lowering environment value = [] then
      environment.roots.headD [] else normalizeWorkspace lowering environment value) := by
    split
    · exact first
    · next given =>
      exact settled_normalizeWorkspace lowering environment
        (mt (normalizeWorkspace_eq_nil lowering environment).mpr given)
  have chosen : stripText requested ≠ [] → (if normalizeWorkspace lowering environment value = [] then
      environment.roots.headD [] else normalizeWorkspace lowering environment value) =
      normalizeWorkspace lowering environment requested := by
    intro given
    have some : requested ≠ [] := by
      rintro rfl
      exact given rfl
    have same : value = requested := by rw [← supplied, if_neg some]
    rw [same, if_neg (settled_normalizeWorkspace lowering environment given).1]
  simp only [workspaceForEnvironment, supplied] at answered
  generalize (if normalizeWorkspace lowering environment value = [] then
    environment.roots.headD [] else normalizeWorkspace lowering environment value) = judged
    at answered settled chosen
  split at answered
  · next found =>
    simp only [settled.1, false_and, ↓reduceIte, Except.ok.injEq, Prod.mk.injEq] at answered
    obtain ⟨rfl, rfl⟩ := answered
    exact ⟨settled, found, chosen⟩
  · split at answered
    · cases answered
    · next absent =>
      have normal : Settled (normalizeWorkspace lowering environment (environment.roots.headD [])) :=
        settled_normalizeWorkspace lowering environment (by rw [first.2]; exact first.1)
      have unasked : stripText requested ≠ [] → False := by
        intro given
        have none : requested = [] := not_not.mp absent
        exact given (by rw [none]; rfl)
      split at answered
      · next found =>
        simp only [normal.1, false_and, ↓reduceIte, Except.ok.injEq, Prod.mk.injEq] at answered
        obtain ⟨rfl, rfl⟩ := answered
        exact ⟨normal, found, fun given => (unasked given).elim⟩
      · cases answered

end

/-- What is answered lies below a root of the environment, and a request outside every root is
refused. -/
theorem workspace_contained (lowering : Lowering) (environment : Environment)
    (declared : environment.roots ≠ [])
    (absolute : ∀ root ∈ environment.roots, Absolute lowering environment root)
    (requested fallback : Text) :
    (∀ workspace root,
      workspaceForEnvironment lowering environment requested fallback = .ok (workspace, root) →
        root ∈ environment.roots ∧ Within lowering environment workspace root) ∧
    (stripText requested ≠ [] →
      (∀ root ∈ environment.roots, ¬ Within lowering environment (stripText requested) root) →
        ∃ detail, workspaceForEnvironment lowering environment requested fallback = .error detail) := by
  have admitted : ∀ workspace root,
      workspaceForEnvironment lowering environment requested fallback = .ok (workspace, root) →
        root ∈ environment.roots ∧ Within lowering environment workspace root := by
    intro workspace root answered
    have ⟨settled, found, _⟩ := workspaceForEnvironment_ok declared answered
    exact within_of_ok absolute declared settled found
  refine ⟨admitted, ?_⟩
  intro given outside
  cases answered : workspaceForEnvironment lowering environment requested fallback with
  | error detail => exact ⟨detail, rfl⟩
  | ok pair =>
      obtain ⟨workspace, root⟩ := pair
      have ⟨_, _, asked⟩ := workspaceForEnvironment_ok declared answered
      have ⟨listed, within⟩ := admitted workspace root answered
      rw [asked given, ← within_slashed, slashed_normalizeWorkspace, within_slashed] at within
      exact absurd within (outside root listed)

/-! ### A drive that is climbed out of -/

theorem isAlpha_toLower {c : Char} (letter : c.isAlpha = true) : c.toLower.isAlpha = true := by
  by_contra other
  have plain : c.toLower.isAlpha = false := by simpa using other
  rw [← toLower_plain rfl plain, letter] at plain
  cases plain

/-- `str.lower` of ASCII texts. -/
def asciiLowering : Lowering where
  lower text := text.map Char.toLower
  nil := rfl
  blank := List.map_eq_nil_iff.mp
  slash before after := by
    rw [List.map_append, List.map_cons]
    rfl
  free absent member := by
    obtain ⟨c, present, lowered⟩ := List.mem_map.mp member
    exact absent (toLower_plain lowered (by decide) ▸ present)
  dot := by
    intro text same
    obtain ⟨c, rfl, lowered⟩ := List.map_eq_singleton_iff.mp same
    rw [toLower_plain lowered (by decide)]
    rfl
  drive := by
    intro text holds
    unfold isDrive at holds
    split at holds
    · exact isAlpha_toLower holds
    · cases holds

def dockerHost : Environment :=
  ⟨"host-1".toList, [], [], [], ["C:/Docker".toList]⟩

/-- Where a root is declared and nothing climbs, a request is judged as its host would. -/
theorem docker_request_contained :
    dockerHost.roots ≠ [] ∧
    (∀ root ∈ dockerHost.roots, Absolute asciiLowering dockerHost root) ∧
    "C:/Docker".toList ∈ dockerHost.roots ∧
    Within asciiLowering dockerHost "c:\\docker\\sub\\..\\proj".toList "C:/Docker".toList := by
  have declared : dockerHost.roots ≠ [] := by decide
  have absolute : ∀ root ∈ dockerHost.roots, Absolute asciiLowering dockerHost root := by
    intro root member
    have only : root = "C:/Docker".toList := by
      have listed : dockerHost.roots = ["C:/Docker".toList] := by decide
      rw [listed] at member
      exact List.mem_singleton.mp member
    rw [only]
    unfold Absolute
    decide
  have answered : workspaceForEnvironment asciiLowering dockerHost
      "c:\\docker\\sub\\..\\proj".toList [] =
      .ok ("c:\\docker\\sub\\..\\proj".toList, "C:/Docker".toList) := by decide
  exact ⟨declared, absolute,
    (workspace_contained asciiLowering dockerHost declared absolute _ []).1 _ _ answered⟩

/-- The request leaves its drive and names another, and the other's root admits it; and where no
root is declared, every request is answered, with no root. -/
theorem other_drive_admitted :
    (∃ workspace root, workspaceForEnvironment asciiLowering dockerHost
        "D:/../C:/Docker/x".toList [] = .ok (workspace, root) ∧
      ¬ Below (folding asciiLowering dockerHost).lower
        (located (usesWindowsPaths asciiLowering dockerHost) workspace)
        (located (usesWindowsPaths asciiLowering dockerHost) root)) ∧
    workspaceForEnvironment asciiLowering ⟨"host-2".toList, [], [], [], []⟩ "/etc".toList [] =
      .ok ("/etc".toList, []) := by
  constructor
  · refine ⟨"D:/../C:/Docker/x".toList, "C:/Docker".toList, by decide, ?_⟩
    unfold Below
    decide
  · decide

end AifyComms.WorkspaceRoots
