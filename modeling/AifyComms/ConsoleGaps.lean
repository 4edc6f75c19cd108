import AifyComms.ConsoleCursor
import AifyComms.TerminalFrames

/-!
The write queue's frames at the dashboard's console: the handler of `terminal_output` in
`realtime-socket.mjs`. A frame past the one after the cursor is a gap, and the cursor moves
only with a frame that has output. A batch with a status and no output takes a number too,
so the frame after it looks like one that was dropped.
-/

namespace AifyComms.ConsoleGaps
open ConsoleCursor TerminalOutput TerminalWriteQueue Runs

/-- The payload of a `terminal_output` event, as far as the handler reads it. -/
structure Payload where
  terminalId : String
  agentId : String
  output : String
  seq : Nat
  deriving DecidableEq

/-- `state.terminalOwners`, `state.activeXterm`, and whether its pane is hidden. -/
structure Page where
  terminalOwners : String → Option String
  activeXterm : Option Entry
  hidden : Bool

inductive Branch where
  | foreign
  | hidden
  | unread
  | held
  | covered
  | gap
  | painted
  deriving DecidableEq

/-- `owner && data.agentId && data.agentId !== owner`. -/
def Page.refuses (page : Page) (data : Payload) : Bool :=
  match page.terminalOwners data.terminalId with
  | none => false
  | some owner => owner ≠ "" && data.agentId ≠ "" && data.agentId ≠ owner

/-- Where a frame goes once it is the mounted console's. -/
def frameBranch (entry : Entry) (seq : Int) : Branch :=
  if entry.resyncing then .held
  else if 0 ≤ entry.lastSeq ∧ seq ≤ entry.lastSeq then .covered
  else if 0 ≤ entry.lastSeq ∧ entry.lastSeq + 1 < seq then .gap
  else .painted

/-- The branch of `applyRealtimeEvent` that a `terminal_output` event takes. -/
def branch (page : Page) (data : Payload) : Branch :=
  if data.terminalId = "" then .unread
  else if page.refuses data then .foreign
  else match page.activeXterm with
    | none => .unread
    | some entry =>
        if page.hidden then .hidden
        else if entry.terminalId = data.terminalId ∧ data.output ≠ "" then
          frameBranch entry data.seq
        else .unread

/-- What the branch makes of the entry. A gap starts the recovery, whose fetch is
outstanding from then on. -/
def Branch.apply (taken : Branch) (frame : Frame) (entry : Entry) : Entry :=
  match taken with
  | .held => holdFrame frame entry
  | .gap => { holdFrame frame entry with resyncing := true }
  | .painted => paintFrame frame entry
  | _ => entry

def applyTerminalOutput (page : Page) (data : Payload) : Page :=
  let taken := branch page data
  { page with
    terminalOwners :=
      if data.terminalId = "" ∨ page.refuses data ∨ data.agentId = "" then page.terminalOwners
      else Function.update page.terminalOwners data.terminalId (some data.agentId)
    activeXterm := page.activeXterm.map (taken.apply ⟨data.seq, data.output⟩) }

/-- Whether one of the events takes the gap branch, each on the page the earlier ones left. -/
def takesGap : Page → List Payload → Bool
  | _, [] => false
  | page, data :: rest => branch page data = .gap || takesGap (applyTerminalOutput page data) rest

/-! ### A console that follows a terminal -/

/-- A console that shows a terminal, up to the frame `last`, with nothing outstanding. -/
structure Page.Follows (page : Page) (agentOf : TerminalId → String) (terminal : TerminalId)
    (last : Nat) : Prop where
  named : terminal ≠ ""
  owner : ∀ owner, page.terminalOwners terminal = some owner →
    owner = "" ∨ owner = agentOf terminal
  visible : page.hidden = false
  entry : ∃ entry, page.activeXterm = some entry ∧ entry.terminalId = terminal ∧
    entry.resyncing = false ∧ entry.lastSeq = last

section Following
variable {agentOf : TerminalId → String} {terminal : TerminalId} {page : Page} {last : Nat}
  {data : Payload}

theorem Page.Follows.accepts (follows : page.Follows agentOf terminal last)
    (own : data.terminalId = terminal) (agent : data.agentId = agentOf terminal) :
    page.refuses data = false := by
  unfold Page.refuses
  rw [own, agent]
  split
  · rfl
  · rename_i owner owned
    rcases follows.owner owner owned with blank | same
    · simp [blank]
    · simp [same]

/-- The owner of the terminal is the agent of its frames, also after another event. -/
theorem Page.Follows.owner_after (follows : page.Follows agentOf terminal last)
    (agent : data.agentId = agentOf data.terminalId) (owner : String)
    (owned : (applyTerminalOutput page data).terminalOwners terminal = some owner) :
    owner = "" ∨ owner = agentOf terminal := by
  dsimp only [applyTerminalOutput] at owned
  split at owned
  · exact follows.owner owner owned
  · by_cases same : terminal = data.terminalId
    · rw [same, Function.update_self] at owned
      rw [← Option.some.inj owned, agent, same]
      exact .inr rfl
    · rw [Function.update_of_ne same] at owned
      exact follows.owner owner owned

/-- A frame of another terminal, or one without output, leaves the cursor. -/
theorem Page.Follows.passes (follows : page.Follows agentOf terminal last)
    (agent : data.agentId = agentOf data.terminalId)
    (other : data.terminalId ≠ terminal ∨ data.output = "") :
    branch page data ≠ .gap ∧ (applyTerminalOutput page data).Follows agentOf terminal last := by
  obtain ⟨entry, mounted, shows, settled, cursor⟩ := follows.entry
  have quiet : branch page data = .unread ∨ branch page data = .foreign := by
    unfold branch
    rw [mounted, follows.visible]
    split
    · exact .inl rfl
    split
    · exact .inr rfl
    have unread : ¬(entry.terminalId = data.terminalId ∧ data.output ≠ "") := by
      rintro ⟨same, written⟩
      rcases other with different | blank
      · exact different (same.symm.trans shows)
      · exact written blank
    simp [unread]
  have kept : (applyTerminalOutput page data).activeXterm = some entry := by
    dsimp only [applyTerminalOutput]
    rw [mounted]
    rcases quiet with taken | taken <;> rw [taken] <;> rfl
  refine ⟨?_, follows.named, follows.owner_after agent, follows.visible, entry, kept, shows,
    settled, cursor⟩
  rcases quiet with taken | taken <;> rw [taken] <;> decide

theorem Page.Follows.branch_eq (follows : page.Follows agentOf terminal last)
    (own : data.terminalId = terminal) (agent : data.agentId = agentOf terminal)
    (written : data.output ≠ "") :
    branch page data = if data.seq ≤ last then .covered
      else if last + 1 < data.seq then .gap else .painted := by
  obtain ⟨entry, mounted, shows, settled, cursor⟩ := follows.entry
  have named : data.terminalId ≠ "" := by
    rw [own]
    exact follows.named
  unfold branch
  rw [if_neg named, follows.accepts own agent, mounted, follows.visible]
  have taken : entry.terminalId = data.terminalId ∧ data.output ≠ "" :=
    ⟨shows.trans own.symm, written⟩
  simp only [Bool.false_eq_true, if_false, if_pos taken, frameBranch, settled, cursor]
  by_cases covered : data.seq ≤ last
  · have inside : (0 : Int) ≤ last ∧ (data.seq : Int) ≤ last := by omega
    rw [if_pos inside, if_pos covered]
  · have outside : ¬((0 : Int) ≤ last ∧ (data.seq : Int) ≤ last) := by omega
    rw [if_neg outside, if_neg covered]
    by_cases past : last + 1 < data.seq
    · have jumps : (0 : Int) ≤ last ∧ (last : Int) + 1 < data.seq := by omega
      rw [if_pos jumps, if_pos past]
    · have next : ¬((0 : Int) ≤ last ∧ (last : Int) + 1 < data.seq) := by omega
      rw [if_neg next, if_neg past]

/-- The next frame of the terminal is painted. -/
theorem Page.Follows.paints (follows : page.Follows agentOf terminal last)
    (own : data.terminalId = terminal) (agent : data.agentId = agentOf data.terminalId)
    (written : data.output ≠ "") (next : data.seq = last + 1) :
    branch page data ≠ .gap ∧
      (applyTerminalOutput page data).Follows agentOf terminal (last + 1) := by
  obtain ⟨entry, mounted, shows, settled, cursor⟩ := follows.entry
  have taken : branch page data = .painted := by
    rw [follows.branch_eq own (own ▸ agent) written, if_neg (by omega), if_neg (by omega)]
  have kept : (applyTerminalOutput page data).activeXterm =
      some (paintFrame ⟨data.seq, data.output⟩ entry) := by
    dsimp only [applyTerminalOutput]
    rw [mounted, taken]
    rfl
  refine ⟨?_, follows.named, follows.owner_after agent, follows.visible, _, kept, shows, settled,
    ?_⟩
  · rw [taken]
    decide
  · dsimp only [paintFrame]
    omega

/-- The events of a terminal among those the page receives. -/
def ownEvents (terminal : TerminalId) (events : List Payload) : List Payload :=
  events.filter fun data => data.terminalId = terminal

theorem ownEvents_own (own : data.terminalId = terminal) (rest : List Payload) :
    ownEvents terminal (data :: rest) = data :: ownEvents terminal rest :=
  List.filter_cons_of_pos (by simpa using own)

theorem ownEvents_other (other : data.terminalId ≠ terminal) (rest : List Payload) :
    ownEvents terminal (data :: rest) = ownEvents terminal rest :=
  List.filter_cons_of_neg (by simpa using other)

theorem takesGap_passes {rest : List Payload} (passes : branch page data ≠ .gap) :
    takesGap page (data :: rest) = takesGap (applyTerminalOutput page data) rest := by
  rw [takesGap, decide_eq_false passes, Bool.false_or]

/-- Behind the stream, the first frame with output is taken for a gap. -/
theorem takesGap_behind (events : List Payload) (follows : page.Follows agentOf terminal last)
    (agents : ∀ data ∈ events, data.agentId = agentOf data.terminalId)
    (past : ∀ data ∈ ownEvents terminal events, last + 1 < data.seq) :
    takesGap page events = false ↔ ∀ data ∈ ownEvents terminal events, data.output = "" := by
  induction events generalizing page with
  | nil => exact ⟨nofun, fun _ => rfl⟩
  | cons data rest ih =>
      have agent := agents data List.mem_cons_self
      have others := fun other listed => agents other (List.mem_cons_of_mem _ listed)
      by_cases own : data.terminalId = terminal
      · rw [ownEvents_own own] at past ⊢
        rw [List.forall_mem_cons]
        by_cases blank : data.output = ""
        · obtain ⟨passes, after⟩ := follows.passes agent (.inr blank)
          rw [takesGap_passes passes, ih after others
            fun other listed => past other (List.mem_cons_of_mem _ listed)]
          exact (and_iff_right blank).symm
        · have further := past data List.mem_cons_self
          have gap : branch page data = .gap := by
            rw [follows.branch_eq own (own ▸ agent) blank, if_neg (by omega), if_pos further]
          rw [takesGap, gap]
          exact ⟨nofun, fun all => absurd all.1 blank⟩
      · rw [ownEvents_other own] at past ⊢
        obtain ⟨passes, after⟩ := follows.passes agent (.inl own)
        rw [takesGap_passes passes]
        exact ih after others past

/-- On a stream without a hole, a gap is taken when a frame with output comes after one
without. -/
theorem takesGap_next (events : List Payload) (follows : page.Follows agentOf terminal last)
    (agents : ∀ data ∈ events, data.agentId = agentOf data.terminalId)
    (numbers : (ownEvents terminal events).map Payload.seq =
      List.range' (last + 1) (ownEvents terminal events).length) :
    takesGap page events = false ↔ (ownEvents terminal events).Pairwise
      fun earlier later => earlier.output = "" → later.output = "" := by
  induction events generalizing page last with
  | nil => exact ⟨fun _ => .nil, fun _ => rfl⟩
  | cons data rest ih =>
      have agent := agents data List.mem_cons_self
      have others := fun other listed => agents other (List.mem_cons_of_mem _ listed)
      by_cases own : data.terminalId = terminal
      · rw [ownEvents_own own] at numbers ⊢
        rw [List.map_cons, List.length_cons, List.range'_succ, List.cons.injEq] at numbers
        obtain ⟨next, onward⟩ := numbers
        rw [List.pairwise_cons]
        by_cases blank : data.output = ""
        · obtain ⟨passes, after⟩ := follows.passes agent (.inr blank)
          have past : ∀ other ∈ ownEvents terminal rest, last + 1 < other.seq := by
            intro other listed
            have numbered := List.mem_map_of_mem (f := Payload.seq) listed
            rw [onward, List.mem_range'_1] at numbered
            omega
          rw [takesGap_passes passes, takesGap_behind rest after others past]
          constructor
          · intro all
            exact ⟨fun other listed _ => all other listed,
              List.pairwise_of_forall_mem_list fun _ _ other listed _ => all other listed⟩
          · intro both other listed
            exact both.1 other listed blank
        · obtain ⟨passes, after⟩ := follows.paints own agent blank next
          rw [takesGap_passes passes, ih after others onward]
          exact (and_iff_right fun _ _ empty => absurd empty blank).symm
      · rw [ownEvents_other own] at numbers ⊢
        obtain ⟨passes, after⟩ := follows.passes agent (.inl own)
        rw [takesGap_passes passes]
        exact ih after others numbers

end Following

/-! ### The frames of the queue at the console -/

/-- The payloads of the frames that are broadcast. -/
def payloads (agentOf : TerminalId → String) : Event → List Payload
  | .broadcast terminal output _ seq => [⟨terminal, agentOf terminal, output, seq⟩]
  | _ => []

/-- What the socket delivers of a stretch of the server's run. -/
def delivered (agentOf : TerminalId → String) (events : List Event) : List Payload :=
  events.flatMap (payloads agentOf)

section Delivery
variable (agentOf : TerminalId → String)

theorem delivered_agents (events : List Event) (data : Payload)
    (listed : data ∈ delivered agentOf events) : data.agentId = agentOf data.terminalId := by
  obtain ⟨event, _, carried⟩ := List.mem_flatMap.mp listed
  cases event with
  | broadcast owner output status seq =>
      rw [List.mem_singleton.mp carried]
  | _ => cases carried

def Payload.frame (data : Payload) : Sent := ⟨data.output, data.seq⟩

theorem ownEvents_delivered (terminal : TerminalId) (events : List Event) :
    (ownEvents terminal (delivered agentOf events)).map Payload.frame =
      events.flatMap (sentFor terminal) := by
  induction events with
  | nil => rfl
  | cons event rest ih =>
      unfold delivered ownEvents at ih ⊢
      rw [List.flatMap_cons, List.flatMap_cons, List.filter_append, List.map_append, ih]
      congr 1
      cases event with
      | broadcast owner output status seq =>
          by_cases same : owner = terminal <;> simp [payloads, sentFor, same, Payload.frame]
      | _ => rfl

variable {limits : Limits} {rows : TerminalId → Row} {middle world : World}

/-- The frames of a terminal that a run sends from a state on: one for each batch that it
commits, numbered on from the last one. -/
theorem sent_onward (reached : Reaches (step limits) (Posts rows) (initial rows) middle)
    (onward : Reaches (step limits) (Posts rows) middle world) (terminal : TerminalId) :
    (world.log.drop middle.log.length).flatMap (sentFor terminal) =
        ((world.committed terminal).drop (middle.committed terminal).length).map Batch.frame ∧
      ((world.log.drop middle.log.length).flatMap (sentFor terminal)).map Sent.seq =
        List.range' (middle.lastSent rows terminal + 1)
          ((world.log.drop middle.log.length).flatMap (sentFor terminal)).length := by
  obtain ⟨events, log⟩ := reachable_log onward
  have framed := reachable_framed reached
  have later := reachable_framed (reached.trans onward)
  have stretch : world.sent terminal =
      middle.sent terminal ++ events.flatMap (sentFor terminal) := by
    rw [World.sent, log, List.flatMap_append]
    rfl
  rw [log, List.drop_left]
  constructor
  · have committed : (middle.committed terminal).length = (middle.sent terminal).length := by
      rw [framed.told, List.length_map]
    rw [List.map_drop, ← later.told, stretch, committed, List.drop_left]
  · have numbers := later.sent_numbers terminal
    rw [stretch, List.map_append, List.length_append, ← List.range'_append_1,
      framed.sent_numbers] at numbers
    rw [List.append_cancel_left numbers, framed.lastSent_eq]
    congr 1
    omega

end Delivery

/-- A console that follows a terminal takes a gap for none of the frames sent from then on,
exactly when no batch without output commits before one with output. -/
theorem no_gap_iff_output_first (limits : Limits) (rows : TerminalId → Row)
    (agentOf : TerminalId → String) (terminal : TerminalId) (middle world : World) (page : Page)
    (reached : Reaches (step limits) (Posts rows) (initial rows) middle)
    (onward : Reaches (step limits) (Posts rows) middle world)
    (follows : page.Follows agentOf terminal (middle.lastSent rows terminal)) :
    takesGap page (delivered agentOf (world.log.drop middle.log.length)) = false ↔
      ((world.committed terminal).drop (middle.committed terminal).length).Pairwise
        fun earlier later => earlier.output.text = "" → later.output.text = "" := by
  obtain ⟨frames, numbers⟩ := sent_onward reached onward terminal
  have own := ownEvents_delivered agentOf terminal (world.log.drop middle.log.length)
  rw [← own, List.map_map, List.length_map] at numbers
  rw [takesGap_next _ follows (delivered_agents agentOf _) numbers]
  have outputs := own.trans frames
  let inOrder (earlier later : Sent) : Prop := earlier.output = "" → later.output = ""
  calc (ownEvents terminal (delivered agentOf (world.log.drop middle.log.length))).Pairwise
          (fun earlier later => inOrder earlier.frame later.frame)
      ↔ ((ownEvents terminal (delivered agentOf (world.log.drop middle.log.length))).map
          Payload.frame).Pairwise inOrder := List.pairwise_map.symm
    _ ↔ (((world.committed terminal).drop (middle.committed terminal).length).map
          Batch.frame).Pairwise inOrder := by rw [outputs]
    _ ↔ ((world.committed terminal).drop (middle.committed terminal).length).Pairwise
          (fun earlier later => inOrder earlier.frame later.frame) := List.pairwise_map

/-- A console on terminal `t` that has painted the first frame. -/
def firstPainted : Page where
  terminalOwners := fun _ => none
  activeXterm := some
    { terminalId := "t"
      lastSeq := 1
      resyncing := false
      pendingFrames := []
      pendingOverflowed := false
      resyncPasses := 0
      screen := [.frame 1 "a"]
      shown := true }
  hidden := false

theorem firstPainted_follows : firstPainted.Follows (fun _ => "worker") "t" 1 := by
  refine ⟨by decide, nofun, rfl, _, rfl, rfl, rfl, rfl⟩

/-- One post, flushed and written. -/
def writtenPost (output status : String) (baseSeq : Nat) : List Label :=
  [.enqueue "t" output status baseSeq false, .directFlush "t", .select, .write 0, .finish]

theorem no_gap_iff_output_first_ended :
    ∃ middle world, Reaches (step defaultLimits) (Posts fun _ => blankRow)
        (initial fun _ => blankRow) middle ∧
      Reaches (step defaultLimits) (Posts fun _ => blankRow) middle world ∧
      firstPainted.Follows (fun _ => "worker") "t" (middle.lastSent (fun _ => blankRow) "t") ∧
      ((world.committed "t").drop (middle.committed "t").length).map
        (fun batch => batch.output.text) = ["b", ""] ∧
      takesGap firstPainted (delivered (fun _ => "worker") (world.log.drop middle.log.length)) =
        false := by
  have first : (exec (step defaultLimits) (posts fun _ => blankRow) (initial fun _ => blankRow)
      (writtenPost "a" "" 0)).map (fun world => (world.lastSent (fun _ => blankRow) "t",
        (world.committed "t").map (fun batch => batch.output.text))) = some (1, ["a"]) := by
    decide
  have second : (exec (step defaultLimits) (posts fun _ => blankRow) (initial fun _ => blankRow)
      (writtenPost "a" "" 0 ++ (writtenPost "b" "" 1 ++ writtenPost "" "stopped" 1))).map
        (fun world => (world.lastSent (fun _ => blankRow) "t",
        (world.committed "t").map (fun batch => batch.output.text))) =
      some (3, ["a", "b", ""]) := by
    decide
  obtain ⟨middle, world, reached, onward, sent, later⟩ := reaches_both _ _ _ _ _ _
    (fun _ _ granted => granted) first second
  simp only [Prod.mk.injEq] at sent later
  have follows := firstPainted_follows
  rw [← sent.1] at follows
  have counted : (middle.committed "t").length = 1 := by
    rw [← List.length_map (f := fun batch => batch.output.text), sent.2]
    rfl
  have outputs : ((world.committed "t").drop (middle.committed "t").length).map
      (fun batch => batch.output.text) = ["b", ""] := by
    rw [counted, List.map_drop, later.2]
    rfl
  refine ⟨middle, world, reached, onward, follows, outputs, ?_⟩
  refine (no_gap_iff_output_first defaultLimits _ _ "t" middle world firstPainted reached onward
    follows).mpr ?_
  have ordered : (((world.committed "t").drop (middle.committed "t").length).map
      (fun batch => batch.output.text)).Pairwise fun earlier later => earlier = "" → later = "" := by
    rw [outputs]
    decide
  exact List.pairwise_map.mp ordered

/-- A status without output takes the second number, and the console's cursor stays on the
first. -/
theorem status_frame_seen_as_gap :
    ∃ middle world, Reaches (step defaultLimits) (Posts fun _ => blankRow)
        (initial fun _ => blankRow) middle ∧
      Reaches (step defaultLimits) (Posts fun _ => blankRow) middle world ∧
      firstPainted.Follows (fun _ => "worker") "t" (middle.lastSent (fun _ => blankRow) "t") ∧
      (world.sent "t").drop (middle.sent "t").length = [⟨"", 2⟩, ⟨"b", 3⟩] ∧
      takesGap firstPainted (delivered (fun _ => "worker") (world.log.drop middle.log.length)) =
        true := by
  let observe (world : World) : Nat × Nat × List Sent × Bool :=
    (world.lastSent (fun _ => blankRow) "t", world.log.length, world.sent "t",
      takesGap firstPainted (delivered (fun _ => "worker") (world.log.drop 5)))
  have first : (exec (step defaultLimits) (posts fun _ => blankRow) (initial fun _ => blankRow)
      (writtenPost "a" "" 0)).map observe = some (1, 5, [⟨"a", 1⟩], false) := by
    decide
  have second : (exec (step defaultLimits) (posts fun _ => blankRow) (initial fun _ => blankRow)
      (writtenPost "a" "" 0 ++ (writtenPost "" "running" 1 ++ writtenPost "b" "" 1))).map observe =
      some (3, 12, [⟨"a", 1⟩, ⟨"", 2⟩, ⟨"b", 3⟩], true) := by
    decide
  obtain ⟨middle, world, reached, onward, sent, later⟩ := reaches_both _ _ _ _ _ _
    (fun _ _ granted => granted) first second
  simp only [observe, Prod.mk.injEq] at sent later
  have follows := firstPainted_follows
  rw [← sent.1] at follows
  refine ⟨middle, world, reached, onward, follows, ?_, ?_⟩
  · rw [sent.2.2.1, later.2.2.1]
    rfl
  · rw [sent.2.1]
    exact later.2.2.2

end AifyComms.ConsoleGaps
