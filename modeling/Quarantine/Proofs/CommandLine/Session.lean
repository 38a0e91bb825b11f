import Quarantine.CommandLine.Session
import Quarantine.Proofs.Storage.Outcome

/-!
# What sessions ensure

A session ensures something if it holds wherever the session comes to its end, whatever fates
its operations meet; nothing is said of sessions that stop before.

    m.Ensures s Q t d  ↔  for all fates, if m ends with a, t' and d', then Q a t' d'

As for jobs, there is one rule for each way to build a session.
-/

namespace Quarantine

variable {α β : Type} {s : Disk.Surroundings} {d : Disk}

/-! ## What an action can come to -/

/-- That under some fates an action gives a result and leaves a disk. -/
def Action.Gives (s : Disk.Surroundings) (a : Action α) (d : Disk) (x : α) (d' : Disk) : Prop :=
  ∃ fates rest, a.runUnder s fates d = ⟨some x, rest, d'⟩

theorem Action.ensures_gives {S : Disk → Prop} {a : Action α} {Q : α → Disk → Prop}
    (h : a.Ensures s S Q d) : a.Ensures s S (fun x d' => Q x d' ∧ a.Gives s d x d') d := by
  refine ⟨fun fates => ?_⟩
  have hunder := h.under fates
  cases hr : a.runUnder s fates d with
  | mk result rest d' =>
    rw [hr] at hunder
    cases result with
    | none => exact hunder
    | some x => exact ⟨hunder, fates, rest, hr⟩

theorem Action.ensures_trivial (a : Action α) (d : Disk) :
    a.Ensures s (fun _ => True) (fun _ _ => True) d := by
  refine ⟨fun fates => ?_⟩
  split <;> trivial

namespace CommandLine.Session

variable {t : Transcript}

/-- What holds where a session ends. -/
def Ensures (s : Disk.Surroundings) (Q : α → Transcript → Disk → Prop) (m : Session α)
    (t : Transcript) (d : Disk) : Prop :=
  (m.run.run t).Ensures s (fun _ => True) (fun x d' => ∀ a, x.1 = .ok a → Q a x.2 d') d

/-- A session that only looks at what was written so far. -/
theorem ensures_of_run {Q : α → Transcript → Disk → Prop} {m : Session α} {t' : Transcript}
    {x : Except Stop α} (hrun : m.run.run t = pure (x, t')) (h : ∀ a, x = .ok a → Q a t' d) :
    Ensures s Q m t d := by
  unfold Ensures
  rw [hrun]
  exact Action.ensures_pure h

theorem ensures_pure {Q : α → Transcript → Disk → Prop} {x : α} (h : Q x t d) :
    Ensures s Q (pure x) t d :=
  ensures_of_run (x := .ok x) rfl fun _ ha => Except.ok.inj ha ▸ h

theorem ensures_throw {Q : α → Transcript → Disk → Prop} (e : Stop) :
    Ensures s Q (throw e) t d :=
  ensures_of_run (x := .error e) rfl fun _ ha => by cases ha

theorem Ensures.mono {Q R : α → Transcript → Disk → Prop} {m : Session α}
    (h : Ensures s Q m t d) (hp : ∀ a t' d', Q a t' d' → R a t' d') : Ensures s R m t d :=
  Action.Ensures.mono h (fun _ h => h) fun x d' hx a ha => hp a x.2 d' (hx a ha)

theorem run_bind (m : Session α) (f : α → Session β) (t : Transcript) :
    (m >>= f).run.run t = m.run.run t >>= fun x => match x.1 with
      | .ok a => (f a).run.run x.2
      | .error e => pure (.error e, x.2) := by
  rw [ExceptT.run_bind, StateT.run_bind]
  refine bind_congr fun x => ?_
  cases x.1 <;> rfl

theorem Ensures.bind {M : α → Transcript → Disk → Prop} {Q : β → Transcript → Disk → Prop}
    {m : Session α} {f : α → Session β} (hm : Ensures s M m t d)
    (hf : ∀ a t' d', M a t' d' → Ensures s Q (f a) t' d') : Ensures s Q (m >>= f) t d := by
  unfold Ensures
  rw [run_bind]
  refine Action.Ensures.bind hm ?_
  rintro ⟨x, t'⟩ d' hx
  cases x with
  | ok a => exact hf a t' d' (hx a rfl)
  | error e => exact Action.ensures_pure fun _ ha => by cases ha

/-! ## Writing and telling -/

theorem ensures_write {Q : Unit → Transcript → Disk → Prop} {text : String}
    (h : Q () { t with output := t.output ++ text } d) : Ensures s Q (write text) t d :=
  ensures_of_run (x := .ok ()) rfl fun _ _ => h

theorem ensures_tell {Q : Unit → Transcript → Disk → Prop} {tone : Tone} {text : String}
    (h : Q () { t with messages := t.messages ++ [(tone, text)] } d) :
    Ensures s Q (tell tone text) t d :=
  ensures_of_run (x := .ok ()) rfl fun _ _ => h

/-- A message that is told in some cases only changes no more than the messages. -/
theorem ensures_tellIf {Q : Unit → Transcript → Disk → Prop} {p : Prop} [Decidable p]
    {tone : Tone} {text : String} (h : ∀ messages, Q () { t with messages } d) :
    Ensures s Q (if p then tell tone text else pure ()) t d := by
  split
  · exact ensures_tell (h _)
  · exact ensures_pure (h t.messages)

/-- The same where the session goes on. -/
theorem ensures_tellIf_bind {Q : α → Transcript → Disk → Prop} {p : Prop} [Decidable p]
    {tone : Tone} {text : String} {f : Unit → Session α}
    (h : ∀ messages, Ensures s Q (f ()) { t with messages } d) :
    Ensures s Q (if p then tell tone text >>= f else f ()) t d := by
  split
  · refine (ensures_tell (Q := fun _ t' d' => d' = d ∧ ∃ messages, t' = { t with messages })
      ⟨rfl, _, rfl⟩).bind ?_
    rintro _ _ d' ⟨rfl, messages, rfl⟩
    exact h messages
  · exact h t.messages

theorem ensures_tellEach {Q : Unit → Transcript → Disk → Prop} {tone : Tone} (xs : List α)
    (text : α → String) (h : ∀ messages, Q () { t with messages } d) :
    Ensures s Q (xs.forM fun x => tell tone (text x)) t d := by
  induction xs generalizing t with
  | nil => exact ensures_pure (h t.messages)
  | cons x xs ih =>
    show Ensures s Q (tell tone (text x) >>= fun _ => xs.forM fun x => tell tone (text x)) t d
    refine (ensures_tell (Q := fun _ t' d' => d' = d ∧ ∃ messages, t' = { t with messages })
      ⟨rfl, _, rfl⟩).bind ?_
    rintro _ _ d' ⟨rfl, messages, rfl⟩
    exact ih h

/-! ## Acting -/

theorem run_act (a : Action α) (t : Transcript) :
    (act a).run.run t = a >>= fun x => pure (.ok x, t) := by
  unfold act
  rw [ExceptT.run_lift, map_eq_pure_bind, StateT.run_bind, StateT.run_lift, bind_assoc]
  rfl

theorem ensures_act {Q : α → Transcript → Disk → Prop} {a : Action α}
    (h : a.Ensures s (fun _ => True) (fun x d' => Q x t d') d) : Ensures s Q (act a) t d := by
  unfold Ensures
  rw [run_act]
  exact Action.Ensures.bind h fun x d' hx => Action.ensures_pure fun _ he => Except.ok.inj he ▸ hx

theorem ensures_act_gives (a : Action α) :
    Ensures s (fun x t' d' => t' = t ∧ a.Gives s d x d') (act a) t d :=
  ensures_act ((Action.ensures_gives (a.ensures_trivial d)).mono (fun _ h => h)
    fun _ _ h => ⟨rfl, h.2⟩)

theorem ensures_check {Q : α → Transcript → Disk → Prop} {reasons : Failure → List String}
    {x : Except Failure α} (h : ∀ a, x = .ok a → Q a t d) :
    Ensures s Q (check reasons x) t d := by
  cases x with
  | ok a => exact ensures_pure (h a rfl)
  | error e => exact ensures_throw _

theorem ensures_perform {Q : α → Transcript → Disk → Prop} {reasons : Failure → List String}
    {job : Job α} (h : Job.Ensures s (fun _ => True) (fun x d' => Q x t d') job d) :
    Ensures s Q (perform reasons job) t d := by
  refine (ensures_act (Q := fun x t' d' => t' = t ∧ ∀ a, x = .ok a → Q a t d') ?_).bind ?_
  · refine Action.Ensures.mono h (fun _ h => h) fun x d' hx => ⟨rfl, fun a ha => ?_⟩
    subst ha
    exact hx
  · rintro x t' d' ⟨rfl, hx⟩
    exact ensures_check hx

theorem ensures_perform_gives (reasons : Failure → List String) (job : Job α) :
    Ensures s (fun x t' d' => t' = t ∧ Action.Gives s job.run d (.ok x) d')
      (perform reasons job) t d := by
  refine (ensures_act_gives job.run).bind ?_
  rintro x t' d' ⟨rfl, hgives⟩
  exact ensures_check fun a ha => ⟨rfl, ha ▸ hgives⟩

end CommandLine.Session
end Quarantine
