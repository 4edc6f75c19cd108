import AifyComms.DispatchQueueTracking

/-!
A channel message reaches each member through one run. The send makes it, or
the replay sweep does when the send could not; the sweep's query recognises a
run only by the message that opened it.
-/

namespace AifyComms.ChannelReplay
open PyText TextLines DispatchBuffer DispatchQueue DispatchQueueTracking Runs

variable {world : World}

def runsCarrying (world : World) (id : Text) : List Run :=
  world.runs.filter fun run => run.Carries id

theorem length_le_one_of_nodup {α : Type} {list : List α} (distinct : list.Nodup)
    (equal : ∀ a ∈ list, ∀ b ∈ list, a = b) : list.length ≤ 1 := by
  match list, distinct, equal with
  | [], _, _ => simp
  | [_], _, _ => simp
  | a :: b :: rest, distinct, equal =>
      have same := equal a (by simp) b (by simp)
      simp [same] at distinct

/-- **A channel message is in at most one run per member**, in every run of the
system whose sweeps pass over copies already merged into a run. -/
theorem copy_in_one_run (reached : Reaches step SweepsUnmerged emptyWorld world) (id : Text) :
    (runsCarrying world id).length ≤ 1 := by
  have tracked := reaches_tracked reached
  refine length_le_one_of_nodup ?_ fun run inFilter other otherInFilter => ?_
  · exact (tracked.runIds.of_map _).sublist List.filter_sublist
  · obtain ⟨inRuns, here⟩ := List.mem_filter.mp inFilter
    obtain ⟨otherInRuns, there⟩ := List.mem_filter.mp otherInFilter
    exact tracked.run_eq inRuns otherInRuns (of_decide_eq_true here) (of_decide_eq_true there)

/-- The same condition, computed. -/
def sweepsUnmerged (world : World) : Label → Bool
  | .select cutoff limit =>
      (undeliveredMessages world cutoff limit).all fun message =>
        !(mergedIds world).contains message.id
  | _ => true

theorem sweepsUnmerged_sound {label : Label} (granted : sweepsUnmerged world label = true) :
    SweepsUnmerged world label := by
  cases label with
  | select cutoff limit =>
      intro message undelivered merged
      have absent := List.all_eq_true.mp granted message undelivered
      simp [merged] at absent
  | _ => trivial

def lead : Member := ⟨"lead".toList, ⟨true, false⟩, spaceless (by decide)⟩

def coder (launchable : Bool) : Member := ⟨"coder".toList, ⟨launchable, false⟩, spaceless (by decide)⟩

/-- A post of `lead` in a channel with one other member. -/
def samplePost (id : String) (launchable : Bool) (minted : ∀ c ∈ id.toList, isSpace c = false) :
    ChannelPost :=
  ⟨"dev".toList, ⟨"lead".toList, "info".toList, [], "Go.".toList, [], [], id.toList, [], minted,
    List.not_mem_nil⟩, [lead, coder launchable], true, 0⟩

def sweepLabels : List Label :=
  [.select 0 200, .replay (fun _ => true) [] (by decide)]

/-- The first post finds its member's environment down; the sweep makes its run. -/
theorem offline_copy_in_one_run :
    ∃ world, Reaches step SweepsUnmerged emptyWorld world ∧
      (runsCarrying world "1-a-coder".toList).length = 1 ∧
      ∀ id, (runsCarrying world id).length ≤ 1 := by
  have executed : (exec step sweepsUnmerged emptyWorld
      (.channelSend (samplePost "1-a" false (spaceless (by decide))) :: sweepLabels)).map
      (fun world => (runsCarrying world "1-a-coder".toList).length) = some 1 := by decide
  obtain ⟨world, reached, one⟩ :=
    reaches_observed _ _ _ _ (fun _ _ => sweepsUnmerged_sound) executed
  exact ⟨world, reached, one, copy_in_one_run reached⟩

/-- The second post is merged into the run of the first, and the sweep that
finds both unread makes another run for it. -/
theorem merged_copy_replayed :
    ¬ ∀ world, Reaches step anyStep emptyWorld world →
      ∀ id, (runsCarrying world id).length ≤ 1 := by
  intro claimed
  have executed : (exec step (fun _ _ => true) emptyWorld
      (.channelSend (samplePost "1-a" true (spaceless (by decide))) ::
        .channelSend (samplePost "2-b" true (spaceless (by decide))) :: sweepLabels)).map
      (fun world => (runsCarrying world "2-b-coder".toList).length) = some 2 := by decide
  obtain ⟨world, reached, two⟩ := reaches_observed _ _ _ _ (fun _ _ _ => trivial) executed
  have one := claimed world reached "2-b-coder".toList
  omega

end AifyComms.ChannelReplay
