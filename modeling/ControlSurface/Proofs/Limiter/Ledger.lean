import ControlSurface.Proofs.Limiter.Log

/-!
# The ledger

If the readings of the clock are in order, then requests are decided about as if all charges ever
made were kept: no decision depends on what is dropped, or on when the table is swept.
-/

namespace ControlSurface.Limiter

/-- How many of the charges of a key in a log count at a time. -/
def burden (now : Seconds) (key : String) (log : List (String × Seconds)) : ℕ :=
  (recent now (chargesTo key log)).length

/-- What is decided about a request when all charges ever made are known. -/
def judge (limits : Limits) (log : List (String × Seconds)) (r : Arrival) : Verdict :=
  verdictOf limits r.path (burden r.time (generationKey r.client) log)
    (burden r.time r.client log)

/-- Decides about requests one after the other, and keeps all charges. -/
def ledger (limits : Limits) : List (String × Seconds) → List Arrival → List (Arrival × Verdict)
  | _, [] => []
  | log, r :: rest =>
    (r, judge limits log r) :: ledger limits (log ++ r.charges (judge limits log r)) rest

lemma window_counts : Window Seconds.Precedes counts where
  ordered h := h.not_isBelow
  now _ h := h
  later _ hrr h := counts_of_precedes hrr h

variable {limits : Limits} {s : State} {log : List (String × Seconds)} {r : Arrival}

lemma Follows.burden_eq {future : List Seconds}
    (h : Follows Seconds.Precedes counts s log (r.time :: future)) (key : String) :
    (recent r.time (s.chargesOf key)).length = burden r.time key log :=
  congrArg List.length (h.filter_eq key r.time (List.mem_cons_self ..))

/-- A request is decided about by the log alone. -/
lemma Follows.step_eq_judge {future : List Seconds}
    (h : Follows Seconds.Precedes counts s log (r.time :: future)) :
    (Limiter.step limits s r).1 = judge limits log r := by
  rw [step_fst limits h.wellKept, h.burden_eq, h.burden_eq, judge]

lemma Follows.decided_eq {requests : List Arrival}
    (h : Follows Seconds.Precedes counts s log (requests.map Arrival.time))
    (hclock : (requests.map Arrival.time).Pairwise Seconds.Precedes) :
    decided limits s requests = ledger limits log requests := by
  induction requests generalizing s log with
  | nil => rfl
  | cons r rest ih =>
    obtain ⟨hnow, hrest⟩ := List.pairwise_cons.1 hclock
    have hnext := h.step window_counts limits hnow
    rw [h.step_eq_judge] at hnext
    rw [decided_cons, ledger, h.step_eq_judge, ih hnext hrest]

/-- The limiter decides as the ledger does. -/
theorem decided_eq_ledger (limits : Limits) (start : Seconds) {requests : List Arrival}
    (hclock : (requests.map Arrival.time).Pairwise Seconds.Precedes) :
    decided limits (State.start start) requests = ledger limits [] requests :=
  (Follows.start start).decided_eq hclock

end ControlSurface.Limiter
