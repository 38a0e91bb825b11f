import Quarantine.Proofs.CommandLine.Session
import Quarantine.Proofs.Storage.Success

/-!
# What sessions come to

Where no operation is refused, a session comes to one end: it gives a result or stops, and until
then something was written and told, and the disk has changed.

    outcome s m t d = what m.run.run t gives on d

There is one rule for each way to build a session; messages that are told in some cases only leave
the messages open.
-/

namespace Quarantine.CommandLine.Session

open Quarantine.Disk

variable {α β : Type} {s : Surroundings} {t t' : Transcript} {d d' : Disk}

/-- What a session gives, what was written and told by then, and the disk. -/
def outcome (s : Surroundings) (m : Session α) (t : Transcript) (d : Disk) :
    (Except Stop α × Transcript) × Disk := Action.run s (m.run.run t) d

theorem Ensures.of_outcome {Q : α → Transcript → Disk → Prop} {m : Session α} {x : α}
    (h : Ensures s Q m t d) (hx : outcome s m t d = ((.ok x, t'), d')) : Q x t' d' := by
  have hrun := Action.Ensures.run h
  unfold outcome at hx
  rw [hx] at hrun
  exact hrun x rfl

theorem outcome_bind (m : Session α) (f : α → Session β) (t : Transcript) (d : Disk) :
    outcome s (m >>= f) t d = match outcome s m t d with
      | ((.ok x, t'), d') => outcome s (f x) t' d'
      | ((.error e, t'), d') => ((.error e, t'), d') := by
  unfold outcome
  rw [run_bind, Action.run_bind]
  cases (m.run.run t).run s d with
  | mk x d' => obtain ⟨_ | _, t'⟩ := x <;> rfl

/-- After a session with a known outcome comes the rest. -/
theorem outcome_bind_of_outcome {m : Session α} {f : α → Session β} {x : α}
    (h : outcome s m t d = ((.ok x, t'), d')) :
    outcome s (m >>= f) t d = outcome s (f x) t' d' := by
  rw [outcome_bind, h]

/-- After a session that stops comes nothing. -/
theorem outcome_bind_of_stop {m : Session α} {f : α → Session β} {e : Stop}
    (h : outcome s m t d = ((.error e, t'), d')) :
    outcome s (m >>= f) t d = ((.error e, t'), d') := by
  rw [outcome_bind, h]

/-- That a session gives a result. -/
def Succeeds (s : Surroundings) (m : Session α) (t : Transcript) (d : Disk) : Prop :=
  ∃ x t' d', outcome s m t d = ((.ok x, t'), d')

theorem succeeds_bind_of_outcome {m : Session α} {f : α → Session β} {x : α}
    (h : outcome s m t d = ((.ok x, t'), d')) (hf : Succeeds s (f x) t' d') :
    Succeeds s (m >>= f) t d := by
  obtain ⟨y, t₁, d₁, hy⟩ := hf
  exact ⟨y, t₁, d₁, (outcome_bind_of_outcome h).trans hy⟩

theorem Succeeds.bind {m : Session α} {f : α → Session β} (hm : Succeeds s m t d)
    (hf : ∀ x t' d', outcome s m t d = ((.ok x, t'), d') → Succeeds s (f x) t' d') :
    Succeeds s (m >>= f) t d := by
  obtain ⟨x, t', d', hx⟩ := hm
  exact succeeds_bind_of_outcome hx (hf x t' d' hx)

/-! ## Telling -/

theorem outcome_tell (tone : Tone) (text : String) (t : Transcript) (d : Disk) :
    outcome s (tell tone text) t d =
      ((.ok (), { t with messages := t.messages ++ [(tone, text)] }), d) := rfl

theorem outcome_tellIf (p : Prop) [Decidable p] (tone : Tone) (text : String) (t : Transcript)
    (d : Disk) : ∃ messages, outcome s (if p then tell tone text else pure ()) t d =
      ((.ok (), { t with messages }), d) := by
  split
  · exact ⟨_, rfl⟩
  · exact ⟨t.messages, rfl⟩

theorem succeeds_tellIf (p : Prop) [Decidable p] (tone : Tone) (text : String) (t : Transcript)
    (d : Disk) : Succeeds s (if p then tell tone text else pure ()) t d := by
  obtain ⟨messages, h⟩ := outcome_tellIf (s := s) p tone text t d
  exact ⟨(), { t with messages }, d, h⟩

theorem outcome_tellEach (tone : Tone) (xs : List α) (text : α → String) (t : Transcript)
    (d : Disk) : ∃ messages, outcome s (xs.forM fun x => tell tone (text x)) t d =
      ((.ok (), { t with messages }), d) := by
  induction xs generalizing t with
  | nil => exact ⟨t.messages, rfl⟩
  | cons x xs ih =>
    obtain ⟨messages, h⟩ := ih { t with messages := t.messages ++ [(tone, text x)] }
    exact ⟨messages, (outcome_bind_of_outcome (outcome_tell tone (text x) t d)).trans h⟩

/-! ## Acting -/

theorem outcome_act {a : Action α} {x : α} (h : a.run s d = (x, d')) :
    outcome s (act a) t d = ((.ok x, t), d') := by
  unfold outcome
  rw [run_act, Action.run_bind, h]
  rfl

theorem outcome_perform {reasons : Failure → List String} {job : Job α} {x : α}
    (h : job.outcome s d = (.ok x, d')) :
    outcome s (perform reasons job) t d = ((.ok x, t), d') :=
  outcome_bind_of_outcome (outcome_act h)

end Quarantine.CommandLine.Session
