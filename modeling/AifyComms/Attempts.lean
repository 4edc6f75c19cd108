import Mathlib.Data.List.Basic

/-!
Requests sent one after the other to a peer that may refuse any of them. A refused request
was sent all the same, and the caller gives up the ones behind it.
-/

namespace AifyComms.Attempts

variable {Request Error : Type*}

/-- What the caller sees of each request: `none` when it passed, or the error. -/
abbrev Answers (Request Error : Type*) := Request → Option Error

/-- Send each request in turn and stop at the first that is refused. -/
def sendEach (answers : Answers Request Error) (sent : List Request) :
    List Request → List Request × Option Error
  | [] => (sent, none)
  | request :: rest =>
      match answers request with
      | some error => (sent ++ [request], some error)
      | none => sendEach answers (sent ++ [request]) rest

variable {answers : Answers Request Error}

@[simp] theorem sendEach_nil (answers : Answers Request Error) (sent : List Request) :
    sendEach answers sent [] = (sent, none) := rfl

theorem sendEach_cons (answers : Answers Request Error) (sent : List Request) (request : Request)
    (rest : List Request) :
    sendEach answers sent (request :: rest) =
      (answers request).elim (sendEach answers (sent ++ [request]) rest)
        fun error => (sent ++ [request], some error) := by
  rw [sendEach]
  cases answers request <;> rfl

theorem sendEach_refused {request : Request} {error : Error}
    (refused : answers request = some error) (sent rest : List Request) :
    sendEach answers sent (request :: rest) = (sent ++ [request], some error) := by
  rw [sendEach_cons, refused, Option.elim_some]

theorem sendEach_passed {request : Request} (passed : answers request = none)
    (sent rest : List Request) :
    sendEach answers sent (request :: rest) = sendEach answers (sent ++ [request]) rest := by
  rw [sendEach_cons, passed, Option.elim_none]

theorem sendEach_of_passed {requests : List Request}
    (passed : ∀ request ∈ requests, answers request = none) (sent : List Request) :
    sendEach answers sent requests = (sent ++ requests, none) := by
  induction requests generalizing sent with
  | nil => simp
  | cons request rest ih =>
      have first := passed request (List.mem_cons_self ..)
      have others := ih (fun later member => passed later (List.mem_cons_of_mem _ member))
        (sent ++ [request])
      simpa [sendEach_passed first] using others

/-- No error reaches the caller only when every request passed. -/
theorem passed_of_sendEach {requests : List Request} (sent : List Request)
    (quiet : (sendEach answers sent requests).2 = none) :
    ∀ request ∈ requests, answers request = none := by
  induction requests generalizing sent with
  | nil => simp
  | cons request rest ih =>
      cases refused : answers request with
      | some error => simp [sendEach_refused refused] at quiet
      | none =>
          have later := ih (sent ++ [request]) (by simpa [sendEach_passed refused] using quiet)
          exact List.forall_mem_cons.mpr ⟨refused, later⟩

theorem sendEach_append (sent requests more : List Request) :
    sendEach answers sent (requests ++ more) =
      if (sendEach answers sent requests).2 = none then
        sendEach answers (sendEach answers sent requests).1 more
      else sendEach answers sent requests := by
  induction requests generalizing sent with
  | nil => simp
  | cons request rest ih =>
      cases refused : answers request with
      | some error => simp [sendEach_refused refused]
      | none => simpa [sendEach_passed refused] using ih (sent ++ [request])

/-- Only requests of the list are sent, after those sent before. -/
theorem sendEach_sent (answers : Answers Request Error) (sent requests : List Request) :
    ∃ made, made <+: requests ∧ (sendEach answers sent requests).1 = sent ++ made := by
  induction requests generalizing sent with
  | nil => exact ⟨[], List.prefix_refl _, by simp⟩
  | cons request rest ih =>
      cases refused : answers request with
      | some error =>
          exact ⟨[request], ⟨rest, rfl⟩, by simp [sendEach_refused refused]⟩
      | none =>
          obtain ⟨made, early, sentAll⟩ := ih (sent ++ [request])
          exact ⟨request :: made, List.cons_prefix_cons.mpr ⟨rfl, early⟩,
            by simpa [sendEach_passed refused] using sentAll⟩

/-- The last request may be refused without a request being given up. -/
theorem sendEach_whole_iff (answers : Answers Request Error) (sent requests : List Request) :
    (sendEach answers sent requests).1 = sent ++ requests ↔
      ∀ request ∈ requests.dropLast, answers request = none := by
  induction requests generalizing sent with
  | nil => simp
  | cons request rest ih =>
      cases rest with
      | nil =>
          cases refused : answers request with
          | some error => simp [sendEach_refused refused]
          | none => simp [sendEach_passed refused]
      | cons second later =>
          cases refused : answers request with
          | some error => simp [sendEach_refused refused, refused]
          | none =>
              have tail := ih (sent ++ [request])
              simpa [sendEach_passed refused, refused] using tail

end AifyComms.Attempts
