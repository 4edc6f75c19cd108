import AifyComms.ConsoleCursor
import AifyComms.Runs

/-!
The dashboard's console over a stream of frames: the live handler of `terminal_output`
(`realtime-socket.mjs`), the recovery (`console-actions.mjs`) and the mount
(`xterm-mount.mjs`), which move one cursor under their own conditions.

A step is what runs between two awaits. Each mount publishes a console of its own, and a
recovery or a mount goes on with the console it started with after another one replaced
it. A frame that the socket drops, that finds the pane hidden or that is another
terminal's is no step, and so is a mount that finds its console mounted.
-/

namespace AifyComms.BrowserConsole
open ConsoleCursor Runs

/-- A console that was mounted, with the fetches that are outstanding for it. -/
structure Console where
  entry : Entry
  mounting : Bool
  fetching : Nat

structure Dashboard where
  consoles : Nat → Option Console
  active : Option Nat
  mounted : Nat

def initial : Dashboard := ⟨fun _ => none, none, 0⟩

def Dashboard.put (dashboard : Dashboard) (id : Nat) (console : Console) : Dashboard :=
  { dashboard with consoles := Function.update dashboard.consoles id (some console) }

/-- The entry a mount publishes before its first await. -/
def published (terminalId : String) : Console where
  entry :=
    { terminalId := terminalId
      lastSeq := -1
      resyncing := true
      pendingFrames := []
      pendingOverflowed := false
      resyncPasses := 0
      screen := []
      shown := false }
  mounting := true
  fetching := 0

def mount (terminalId : String) (dashboard : Dashboard) : Dashboard :=
  { dashboard.put dashboard.mounted (published terminalId) with
    active := some dashboard.mounted
    mounted := dashboard.mounted + 1 }

/-- `resyncActiveConsole`, up to its fetch. -/
def resyncActiveConsole (dashboard : Dashboard) : Dashboard :=
  match dashboard.active with
  | none => dashboard
  | some id =>
      match dashboard.consoles id with
      | none => dashboard
      | some console =>
          if console.entry.resyncing then dashboard
          else dashboard.put id { console with
            entry := { console.entry with resyncing := true }
            fetching := console.fetching + 1 }

/-- `MAX_RESYNC_PASSES`. -/
def maxResyncPasses : Nat := 3

/-- `resyncActiveConsole`, after its drain. -/
def finishResync (dashboard : Dashboard) (id : Nat) (console : Console)
    (drained : Entry × Bool) : Dashboard :=
  let entry := { drained.1 with resyncing := false }
  let settle (entry : Entry) : Dashboard :=
    dashboard.put id { console with entry := entry, fetching := console.fetching - 1 }
  if !drained.2 then settle { entry with resyncPasses := 0 }
  else if maxResyncPasses ≤ entry.resyncPasses + 1 then
    settle { entry with pendingFrames := [], resyncPasses := 0 }
  else resyncActiveConsole (settle { entry with resyncPasses := entry.resyncPasses + 1 })

/-- The end of a mount that still owns the pane: the held frames are placed, and what they
leave is recovered. -/
def finishMount (dashboard : Dashboard) (id : Nat) (console : Console) (entry : Entry) :
    Dashboard :=
  let drained := drainHeldFrames { entry with resyncing := false }
  let settled := dashboard.put id { console with entry := drained.1, mounting := false }
  if drained.2 then resyncActiveConsole settled else settled

/-- The live handler of `terminal_output`, on the active console. -/
def liveFrame (dashboard : Dashboard) (id : Nat) (console : Console) (frame : Frame) :
    Dashboard :=
  let entry := console.entry
  if entry.resyncing then dashboard.put id { console with entry := holdFrame frame entry }
  else if 0 ≤ entry.lastSeq ∧ frame.seq ≤ entry.lastSeq then dashboard
  else if 0 ≤ entry.lastSeq ∧ entry.lastSeq + 1 < frame.seq then
    resyncActiveConsole (dashboard.put id { console with entry := holdFrame frame entry })
  else dashboard.put id { console with entry := paintFrame frame entry }

inductive Label where
  | mount (terminalId : String)
  | dispose
  | mountLands (id : Nat) (answer : Answer)
  | mountFails (id : Nat) (note : String)
  | resyncAsked
  | resyncLands (id : Nat) (answer : Answer)
  | resyncFails (id : Nat)
  | frame (terminalId : String) (seq : Nat)
  | inputFails (id : Nat) (note : String)

/-- A step of the dashboard over the terminals' streams of frames. -/
def step (stream : String → Int → String) (dashboard : Dashboard) : Label → Option Dashboard
  | .mount terminalId => some (mount terminalId dashboard)
  | .dispose => some { dashboard with active := none }
  | .mountLands id answer =>
      (dashboard.consoles id).bind fun console =>
        if !console.mounting then none
        else if dashboard.active ≠ some id then
          some (dashboard.put id { console with mounting := false })
        else some (finishMount dashboard id console (paintSnapshot answer console.entry))
  | .mountFails id note =>
      (dashboard.consoles id).bind fun console =>
        if !console.mounting then none
        else if dashboard.active ≠ some id then
          some (dashboard.put id { console with
            entry := writeNote note console.entry
            mounting := false })
        else some (finishMount dashboard id console (writeNote note console.entry))
  | .resyncAsked => some (resyncActiveConsole dashboard)
  | .resyncLands id answer =>
      (dashboard.consoles id).bind fun console =>
        if console.fetching = 0 then none
        else some (finishResync dashboard id console
          (drainHeldFrames (paintSnapshot answer console.entry)))
  | .resyncFails id =>
      (dashboard.consoles id).bind fun console =>
        if console.fetching = 0 then none
        else some (finishResync dashboard id console (drainHeldFrames console.entry))
  | .frame terminalId seq =>
      match dashboard.active with
      | none => some dashboard
      | some id =>
          (dashboard.consoles id).bind fun console =>
            if console.entry.terminalId ≠ terminalId then some dashboard
            else some (liveFrame dashboard id console ⟨seq, stream terminalId seq⟩)
  | .inputFails id note =>
      (dashboard.consoles id).bind fun console =>
        some (dashboard.put id { console with entry := writeNote note console.entry })

/-- Every snapshot that lands is numbered. -/
def Numbered (_ : Dashboard) : Label → Prop
  | .mountLands _ answer => ∃ seq : Nat, answer.outputSeq = .number seq
  | .resyncLands _ answer => ∃ seq : Nat, answer.outputSeq = .number seq
  | _ => True

/-! ### Every console is sound -/

variable {stream : String → Int → String}

/-- A console shows and holds its own terminal's stream. -/
def ConsoleSound (stream : String → Int → String) (entry : Entry) : Prop :=
  Sound (stream entry.terminalId) entry

def AllSound (stream : String → Int → String) (dashboard : Dashboard) : Prop :=
  ∀ id console, dashboard.consoles id = some console → ConsoleSound stream console.entry

theorem put_sound {dashboard : Dashboard} {id : Nat} {console : Console}
    (all : AllSound stream dashboard) (sound : ConsoleSound stream console.entry) :
    AllSound stream (dashboard.put id console) := by
  intro other found present
  rcases update_some present with ⟨_, same⟩ | earlier
  · rw [← Option.some.inj same]
    exact sound
  · exact all other found earlier

/-- The flag and the passes say nothing about the screen. -/
theorem sound_flags {entry : Entry} (sound : ConsoleSound stream entry) (resyncing : Bool)
    (passes : Nat) :
    ConsoleSound stream { entry with resyncing := resyncing, resyncPasses := passes } :=
  ⟨sound.held, sound.contiguous⟩

theorem resyncActiveConsole_sound {dashboard : Dashboard} (all : AllSound stream dashboard) :
    AllSound stream (resyncActiveConsole dashboard) := by
  unfold resyncActiveConsole
  split
  · exact all
  next id active =>
    split
    · exact all
    next console found =>
      split
      · exact all
      · exact put_sound all (sound_flags (all id console found) true _)

theorem drained_sound {entry : Entry} (sound : ConsoleSound stream entry) :
    ConsoleSound stream (drainHeldFrames entry).1 := by
  unfold ConsoleSound
  rw [drainHeldFrames_terminal]
  exact drainHeldFrames_sound sound

theorem finishResync_sound {dashboard : Dashboard} {id : Nat} {console : Console}
    {drained : Entry × Bool} (all : AllSound stream dashboard)
    (sound : ConsoleSound stream drained.1) :
    AllSound stream (finishResync dashboard id console drained) := by
  unfold finishResync
  dsimp only
  split
  · exact put_sound all (sound_flags sound false 0)
  split
  · refine put_sound all ⟨?_, sound.contiguous⟩
    intro frame listed
    cases listed
  · exact resyncActiveConsole_sound (put_sound all (sound_flags sound false _))

theorem finishMount_sound {dashboard : Dashboard} {id : Nat} {console : Console} {entry : Entry}
    (all : AllSound stream dashboard) (sound : ConsoleSound stream entry) :
    AllSound stream (finishMount dashboard id console entry) := by
  have settled : AllSound stream (dashboard.put id { console with
      entry := (drainHeldFrames { entry with resyncing := false }).1
      mounting := false }) :=
    put_sound all (drained_sound (sound_flags sound false _))
  unfold finishMount
  dsimp only
  split
  · exact resyncActiveConsole_sound settled
  · exact settled

theorem liveFrame_sound {dashboard : Dashboard} {id : Nat} {console : Console} {frame : Frame}
    (all : AllSound stream dashboard) (found : dashboard.consoles id = some console)
    (output : frame.output = stream console.entry.terminalId frame.seq) :
    AllSound stream (liveFrame dashboard id console frame) := by
  have sound := all id console found
  have held : AllSound stream
      (dashboard.put id { console with entry := holdFrame frame console.entry }) := by
    refine put_sound all ?_
    have same : (holdFrame frame console.entry).terminalId = console.entry.terminalId := by
      unfold holdFrame
      split <;> rfl
    unfold ConsoleSound
    dsimp only
    rw [same]
    exact holdFrame_sound output sound
  unfold liveFrame
  dsimp only
  split
  · exact held
  split
  · exact all
  next uncovered =>
    split
    · exact resyncActiveConsole_sound held
    next adjacent =>
      refine put_sound all (paintNext_sound ?_ output sound)
      intro known
      by_contra other
      rcases lt_or_gt_of_ne other with below | above
      · exact uncovered ⟨known, Int.lt_add_one_iff.mp below⟩
      · exact adjacent ⟨known, above⟩

theorem mount_sound {dashboard : Dashboard} {terminalId : String}
    (all : AllSound stream dashboard) : AllSound stream (mount terminalId dashboard) := by
  have fresh : ConsoleSound stream (published terminalId).entry := by
    constructor
    · intro frame listed
      cases listed
    · intro shown
      cases shown
  have put : AllSound stream (dashboard.put dashboard.mounted (published terminalId)) :=
    put_sound all fresh
  exact put

theorem step_sound {before after : Dashboard} {label : Label} (numbered : Numbered before label)
    (taken : step stream before label = some after) (all : AllSound stream before) :
    AllSound stream after := by
  cases label with
  | mount terminalId =>
      obtain rfl := Option.some.inj taken
      exact mount_sound all
  | dispose =>
      obtain rfl := Option.some.inj taken
      exact all
  | mountLands id answer =>
      obtain ⟨seq, told⟩ := numbered
      obtain ⟨console, found, taken⟩ := Option.bind_eq_some_iff.mp taken
      have sound := all id console found
      split at taken
      · cases taken
      split at taken
      · obtain rfl := Option.some.inj taken
        exact put_sound all sound
      · obtain rfl := Option.some.inj taken
        exact finishMount_sound all (paintSnapshot_sound told sound)
  | mountFails id note =>
      obtain ⟨console, found, taken⟩ := Option.bind_eq_some_iff.mp taken
      have sound : ConsoleSound stream (writeNote note console.entry) :=
        writeNote_sound (all id console found)
      split at taken
      · cases taken
      split at taken
      · obtain rfl := Option.some.inj taken
        exact put_sound all sound
      · obtain rfl := Option.some.inj taken
        exact finishMount_sound all sound
  | resyncAsked =>
      obtain rfl := Option.some.inj taken
      exact resyncActiveConsole_sound all
  | resyncLands id answer =>
      obtain ⟨seq, told⟩ := numbered
      obtain ⟨console, found, taken⟩ := Option.bind_eq_some_iff.mp taken
      split at taken
      · cases taken
      · obtain rfl := Option.some.inj taken
        have painted : ConsoleSound stream (paintSnapshot answer console.entry) :=
          paintSnapshot_sound told (all id console found)
        exact finishResync_sound all (drained_sound painted)
  | resyncFails id =>
      obtain ⟨console, found, taken⟩ := Option.bind_eq_some_iff.mp taken
      split at taken
      · cases taken
      · obtain rfl := Option.some.inj taken
        exact finishResync_sound all (drained_sound (all id console found))
  | frame terminalId seq =>
      dsimp only [step] at taken
      split at taken
      · obtain rfl := Option.some.inj taken
        exact all
      next id active =>
        obtain ⟨console, found, taken⟩ := Option.bind_eq_some_iff.mp taken
        split at taken
        · obtain rfl := Option.some.inj taken
          exact all
        next same =>
          obtain rfl := Option.some.inj taken
          refine liveFrame_sound all found ?_
          rw [not_not.mp same]
  | inputFails id note =>
      obtain ⟨console, found, taken⟩ := Option.bind_eq_some_iff.mp taken
      obtain rfl := Option.some.inj taken
      exact put_sound all (writeNote_sound (all id console found))

/-- Once a snapshot was painted, a console shows it and each frame after it up to its
cursor, whether or not it is resyncing. -/
theorem console_contiguous {dashboard : Dashboard} {id : Nat} {console : Console}
    (run : Reaches (step stream) Numbered initial dashboard)
    (found : dashboard.consoles id = some console) (shown : console.entry.shown = true) :
    ∃ (first : Nat) (text : String) (count : Nat),
      console.entry.lastSeq = first + count ∧
      streamOf console.entry.screen =
        .snapshot first text :: framesAfter (stream console.entry.terminalId) first count := by
  have all : AllSound stream dashboard := by
    refine run.invariant (AllSound stream) ?_ ?_
    · intro id console present
      cases present
    · intro before label after holds numbered taken
      exact step_sound numbered taken holds
  exact (all id console found).contiguous shown

def snapshotAt (seq : Nat) : Answer := ⟨.number seq, .absent, toString seq, ""⟩

def isNumbered (_ : Dashboard) : Label → Bool
  | .mountLands _ answer | .resyncLands _ answer =>
      match answer.outputSeq with
      | .number seq => decide (0 ≤ seq)
      | _ => false
  | _ => true

theorem isNumbered_sound (dashboard : Dashboard) (label : Label)
    (granted : isNumbered dashboard label = true) : Numbered dashboard label := by
  have number : ∀ answer : Answer, (match answer.outputSeq with
      | .number seq => decide (0 ≤ seq)
      | _ => false) = true → ∃ seq : Nat, answer.outputSeq = .number seq := by
    intro answer known
    split at known
    next seq told =>
      refine ⟨seq.toNat, ?_⟩
      rw [told, Int.toNat_of_nonneg (of_decide_eq_true known)]
    · cases known
  cases label with
  | mountLands id answer => exact number answer granted
  | resyncLands id answer => exact number answer granted
  | _ => trivial

/-- Frame 3 is held by the mount; 7 and 8 are held by a recovery that has to fetch twice. -/
theorem console_contiguous_recovered :
    ∃ dashboard console, Reaches (step fun _ seq => toString seq) Numbered initial dashboard ∧
      dashboard.consoles 0 = some console ∧ console.entry.resyncing = false ∧
      console.entry.shown = true ∧ console.entry.lastSeq = 8 ∧
      ∃ (first : Nat) (text : String) (count : Nat), (8 : Int) = first + count ∧
        streamOf console.entry.screen =
          .snapshot first text :: framesAfter (fun seq => toString seq) first count := by
  have executed : (exec (step fun _ seq => toString seq) isNumbered initial
      [.mount "t", .frame "t" 3, .mountLands 0 (snapshotAt 2), .frame "t" 4, .frame "t" 7,
        .frame "t" 8, .resyncLands 0 (snapshotAt 5), .resyncLands 0 (snapshotAt 6)]).map
      (fun dashboard => (dashboard.consoles 0).map fun console =>
        (console.entry.resyncing, console.entry.shown, console.entry.lastSeq)) =
      some (some (false, true, 8)) := by
    decide
  obtain ⟨dashboard, run, seen⟩ := reaches_observed _ _ _ _ isNumbered_sound executed
  obtain ⟨console, found, same⟩ := Option.map_eq_some_iff.mp seen
  simp only [Prod.mk.injEq] at same
  obtain ⟨idle, shown, last⟩ := same
  refine ⟨dashboard, console, run, found, idle, shown, last, ?_⟩
  obtain ⟨first, text, count, reached, screen⟩ := console_contiguous run found shown
  exact ⟨first, text, count, last ▸ reached, screen⟩

end AifyComms.BrowserConsole
