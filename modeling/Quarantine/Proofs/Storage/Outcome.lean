import Quarantine.Proofs.Storage.Disk
import Quarantine.Storage.Job

/-!
# Outcomes under every fate

An action ensures something if it holds whatever fates its operations meet: `S` of the disk
wherever the program ends, and `Q` of the result and the disk where it does not.

    a.Ensures s S Q d  ↔  for all fates, runUnder s a fates d ends safely or with Q

One rule for each way to build an action; then nobody looks at fates again.  A job that fails
leaves the disk as safe as one that is cut off.
-/

namespace Quarantine

/-! ## Actions -/

namespace Action

section

variable {α β : Type} {s : Disk.Surroundings}

structure Ensures (s : Disk.Surroundings) (S : Disk → Prop) (Q : α → Disk → Prop)
    (a : Action α) (d : Disk) : Prop where
  under : ∀ fates, match a.runUnder s fates d with
    | ⟨some x, _, d'⟩ => Q x d'
    | ⟨none, _, d'⟩ => S d'

variable {S T : Disk → Prop} {d : Disk}

theorem ensures_pure {Q : α → Disk → Prop} {x : α} (h : Q x d) :
    (pure x : Action α).Ensures s S Q d := ⟨fun _ => h⟩

theorem ensures_perform {Q : α → Disk → Prop} {o : Operation}
    {next : Except SystemError o.Reply → Action α} (hs : S d)
    (h : ∀ fate reply d', d.respondUnder s o fate = some (reply, d') →
      (next reply).Ensures s S Q d') : (perform o next).Ensures s S Q d := by
  refine ⟨fun fates => ?_⟩
  unfold runUnder
  cases hr : d.respondUnder s o (fates.headD .carriedOut) with
  | none => exact hs
  | some reply => exact (h _ reply.1 reply.2 hr).under fates.tail

theorem Ensures.bind {M : α → Disk → Prop} {Q : β → Disk → Prop} {a : Action α}
    {f : α → Action β} (ha : a.Ensures s S M d)
    (hf : ∀ x d', M x d' → (f x).Ensures s S Q d') :
    (a >>= f).Ensures s S Q d := by
  refine ⟨fun fates => ?_⟩
  have h := ha.under fates
  rw [runUnder_bind]
  cases hr : a.runUnder s fates d with
  | mk result rest d' =>
    rw [hr] at h
    cases result with
    | none => exact h
    | some x => exact (hf x d' h).under rest

theorem Ensures.mono {Q R : α → Disk → Prop} {a : Action α}
    (h : a.Ensures s S Q d) (hs : ∀ d', S d' → T d')
    (hp : ∀ x d', Q x d' → R x d') : a.Ensures s T R d := by
  refine ⟨fun fates => ?_⟩
  have h := h.under fates
  cases hr : a.runUnder s fates d with
  | mk result rest d' =>
    rw [hr] at h
    cases result with
    | none => exact hs d' h
    | some x => exact hp x d' h

/-- What holds of the disk wherever an action ends. -/
theorem Ensures.disk {P : Disk → Prop} {a : Action α} (h : a.Ensures s P (fun _ => P) d)
    (fates : List Fate) : P (a.runUnder s fates d).disk := by
  have h := h.under fates
  cases hr : a.runUnder s fates d with
  | mk result rest d' =>
    rw [hr] at h
    cases result with
    | none => exact h
    | some x => exact h

/-- What holds of what an action gave. -/
theorem Ensures.result {Q : α → Disk → Prop} {a : Action α} (h : a.Ensures s S Q d)
    {fates rest : List Fate} {x : α} {d' : Disk}
    (hrun : a.runUnder s fates d = ⟨some x, rest, d'⟩) : Q x d' := by
  have h := h.under fates
  rw [hrun] at h
  exact h

/-- Without faults there is a result. -/
theorem Ensures.run {Q : α → Disk → Prop} {a : Action α} (h : a.Ensures s S Q d) :
    Q (a.run s d).1 (a.run s d).2 := by
  have h := h.under []
  rw [runUnder_nil] at h
  exact h

/-- What can become of an operation that the program does not end before. -/
theorem respondUnder_cases {o : Operation} {fate : Fate} {reply : Except SystemError o.Reply}
    {d' : Disk} (h : d.respondUnder s o fate = some (reply, d')) :
    d.respond s o = (reply, d') ∨
      o.canFail = true ∧ ∃ e, reply = .error e ∧ (d' = d ∨ ∃ n, d' = d.cut n o) := by
  cases fate with
  | carriedOut => exact .inl (Option.some.inj h)
  | ended => cases h
  | refused e =>
    simp only [Disk.respondUnder] at h
    split at h
    · next hc =>
      obtain ⟨rfl, rfl⟩ := Prod.mk.inj (Option.some.inj h)
      exact .inr ⟨hc, e, rfl, .inl rfl⟩
    · exact .inl (Option.some.inj h)
  | cutShort n e =>
    simp only [Disk.respondUnder] at h
    split at h
    · next hc =>
      obtain ⟨rfl, rfl⟩ := Prod.mk.inj (Option.some.inj h)
      exact .inr ⟨hc, e, rfl, .inr ⟨n, rfl⟩⟩
    · exact .inl (Option.some.inj h)

/-- No action removes or replaces a directory, whatever the fates. -/
theorem runUnder_keepsDirectories (a : Action α) (fates : List Fate) (d : Disk) :
    Disk.KeepsDirectories d (a.runUnder s fates d).disk := by
  induction a generalizing fates d with
  | done a => exact .refl d
  | perform o next ih =>
    unfold runUnder
    cases hr : d.respondUnder s o (fates.headD .carriedOut) with
    | none => exact .refl d
    | some reply =>
      obtain ⟨reply, d'⟩ := reply
      have hstep : Disk.KeepsDirectories d d' := by
        rcases respondUnder_cases hr with h | ⟨-, e, -, rfl | ⟨n, rfl⟩⟩
        · have hkeep := Disk.respond_keepsDirectories s d o
          rw [h] at hkeep
          exact hkeep
        · exact .refl _
        · exact Disk.cut_keepsDirectories _ n o
      exact hstep.trans (ih reply fates.tail d')

theorem ensures_ask {o : Operation} {Q : Except SystemError o.Reply → Disk → Prop}
    (hs : S d) (hr : Q (d.respond s o).1 (d.respond s o).2)
    (he : o.canFail = true → ∀ e, Q (.error e) d ∧ ∀ n, Q (.error e) (d.cut n o)) :
    (ask o).Ensures s S Q d := by
  refine ensures_perform hs fun fate reply d' h => ensures_pure ?_
  rcases respondUnder_cases h with h | ⟨hc, e, rfl, rfl | ⟨n, rfl⟩⟩
  · rw [h] at hr
    exact hr
  · exact (he hc e).1
  · exact (he hc e).2 n

end

end Action

/-! ## Jobs -/

namespace Job

section

variable {α β : Type} {s : Disk.Surroundings} {S T : Disk → Prop} {d : Disk}

/-- What is to hold of the result of a job: `Q` if there is one, else the disk is safe. -/
def Settled (S : Disk → Prop) (Q : α → Disk → Prop) : Except Failure α → Disk → Prop
  | .ok a, d => Q a d
  | .error _, d => S d

def Ensures (s : Disk.Surroundings) (S : Disk → Prop) (Q : α → Disk → Prop) (j : Job α)
    (d : Disk) : Prop := Action.Ensures s S (Settled S Q) j.run d

theorem ensures_pure {Q : α → Disk → Prop} {x : α} (h : Q x d) :
    Ensures s S Q (pure x) d := Action.ensures_pure h

theorem ensures_throw {Q : α → Disk → Prop} {e : Failure} (h : S d) :
    Ensures s S Q (throw e) d := Action.ensures_pure h

theorem ensures_trivial (j : Job α) (d : Disk) :
    Ensures s (fun _ => True) (fun _ _ => True) j d := by
  refine ⟨fun fates => ?_⟩
  split
  · next x _ _ _ => cases x <;> trivial
  · trivial

theorem Ensures.bind {M : α → Disk → Prop} {Q : β → Disk → Prop} {j : Job α}
    {f : α → Job β} (hj : Ensures s S M j d)
    (hf : ∀ x d', M x d' → Ensures s S Q (f x) d') : Ensures s S Q (j >>= f) d := by
  unfold Ensures
  rw [ExceptT.run_bind]
  refine Action.Ensures.bind hj fun x d' h => ?_
  cases x with
  | ok x => exact hf x d' h
  | error e => exact Action.ensures_pure h

theorem Ensures.mono {Q R : α → Disk → Prop} {j : Job α} (h : Ensures s S Q j d)
    (hs : ∀ d', S d' → T d') (hp : ∀ x d', Q x d' → R x d') :
    Ensures s T R j d := by
  refine Action.Ensures.mono h hs fun x d' hx => ?_
  cases x with
  | ok x => exact hp x d' hx
  | error e => exact hs d' hx

theorem Ensures.disk {P : Disk → Prop} {j : Job α} (h : Ensures s P (fun _ => P) j d)
    (fates : List Fate) : P (Action.runUnder s j.run fates d).disk := by
  refine Action.Ensures.disk (Action.Ensures.mono h (fun _ h => h) fun x d' hx => ?_) fates
  cases x with
  | ok x => exact hx
  | error e => exact hx

/-- What holds of the result of a job that succeeded. -/
theorem Ensures.result {Q : α → Disk → Prop} {j : Job α} (h : Ensures s S Q j d)
    {fates rest : List Fate} {x : α} {d' : Disk}
    (hrun : Action.runUnder s j.run fates d = ⟨some (.ok x), rest, d'⟩) : Q x d' :=
  Action.Ensures.result h hrun

/-- The disk is safe where a job gave nothing. -/
theorem Ensures.safe {Q : α → Disk → Prop} {j : Job α} (h : Ensures s S Q j d)
    {fates rest : List Fate} {result : Option (Except Failure α)} {d' : Disk}
    (hno : ∀ x, result ≠ some (.ok x))
    (hrun : Action.runUnder s j.run fates d = ⟨result, rest, d'⟩) : S d' := by
  have hunder := Action.Ensures.under h fates
  rw [hrun] at hunder
  rcases result with _ | e | x
  · exact hunder
  · exact hunder
  · exact absurd rfl (hno x)

/-- What holds of the result of a job that changes no disk, if it gave one. -/
theorem Ensures.action {Q : α → Prop} {j : Job α}
    (h : Ensures s (· = d) (fun x d' => d' = d ∧ Q x) j d) (hs : S d) :
    Action.Ensures s S (fun r d' => d' = d ∧ ∀ x, r = .ok x → Q x) j.run d := by
  refine Action.Ensures.mono h (fun _ hd => hd ▸ hs) ?_
  rintro (e | x) d' h
  · exact ⟨h, fun x he => by cases he⟩
  · exact ⟨h.1, fun x he => Except.ok.inj he ▸ h.2⟩

theorem Ensures.map {Q : β → Disk → Prop} {j : Job α} {f : α → β}
    (h : Ensures s S (fun x d' => Q (f x) d') j d) : Ensures s S Q (f <$> j) d := by
  rw [map_eq_pure_bind]
  exact h.bind fun x d' hx => ensures_pure hx

theorem ensures_discard {Q : Unit → Disk → Prop} {j : Job α}
    (h : Ensures s S (fun _ d' => Q () d') j d) : Ensures s S Q (discard j) d :=
  h.map (f := fun _ => ())

theorem ensures_liftExcept {Q : α → Disk → Prop} {r : Except Failure α} (hs : S d)
    (h : ∀ x, r = .ok x → Q x d) : Ensures s S Q (liftExcept r) d := by
  cases r with
  | ok x => exact ensures_pure (h x rfl)
  | error e => exact ensures_throw hs

/-! ### Operations -/

theorem ensures_attempt {o : Operation} {Q : Except SystemError o.Reply → Disk → Prop}
    (hs : S d) (hr : Q (d.respond s o).1 (d.respond s o).2)
    (he : o.canFail = true → ∀ e, Q (.error e) d ∧ ∀ n, Q (.error e) (d.cut n o)) :
    Ensures s S Q (attempt o) d := by
  have hlift : (attempt o).run = Action.ask o >>= fun reply => pure (.ok reply) := by
    unfold attempt
    rw [ExceptT.run_lift, map_eq_pure_bind]
  unfold Ensures
  rw [hlift]
  exact (Action.ensures_ask hs hr he).bind fun x d' h => Action.ensures_pure h

/-- An operation that must succeed: `Q` need only hold of a reply. -/
theorem ensures_ask {o : Operation} {Q : o.Reply → Disk → Prop} (hs : S d)
    (hr : ∀ r, (d.respond s o).1 = .ok r → Q r (d.respond s o).2)
    (he : ∀ e, (d.respond s o).1 = .error e → S (d.respond s o).2)
    (hc : ∀ n, S (d.cut n o)) : Ensures s S Q (ask o) d := by
  have hask : (ask o).run = Action.ask o >>= fun reply => pure (reply.mapError Failure.io) := rfl
  unfold Ensures
  rw [hask]
  refine (Action.ensures_ask (Q := fun reply d' =>
    Settled S Q (reply.mapError Failure.io) d') hs ?_ fun _ e => ⟨hs, hc⟩).bind
    fun x d' h => Action.ensures_pure h
  cases h : (d.respond s o).1 with
  | ok r => exact hr r h
  | error e => exact he e h

/-- Whether and where a path leads is found out, whatever the fates. -/
theorem ensures_kind? {p : Path} {Q : Option Kind → Disk → Prop} (hs : S d)
    (h : Q (d.inspect p).toOption d) : Ensures s S Q (kind? p) d := by
  have hlift : (kind? p).run = Action.ask (.inspect p) >>= fun reply =>
      pure (.ok reply.toOption) := by
    unfold kind?
    rw [ExceptT.run_lift, map_eq_pure_bind]
    rfl
  unfold Ensures
  rw [hlift]
  refine (Action.ensures_ask (o := .inspect p) (Q := fun reply d' => Q reply.toOption d')
    hs h fun hc => absurd hc Bool.false_ne_true).bind fun x d' h => Action.ensures_pure h

theorem ensures_exists? {p : Path} {Q : Bool → Disk → Prop} (hs : S d)
    (h : Q (d.inspect p).toOption.isSome d) : Ensures s S Q (exists? p) d :=
  (ensures_kind? (Q := fun k d' => Q k.isSome d') hs h).bind fun _ _ h => ensures_pure h

theorem ensures_isDirectory {p : Path} {Q : Bool → Disk → Prop} (hs : S d)
    (h : Q ((d.inspect p).toOption == some .directory) d) :
    Ensures s S Q (isDirectory p) d :=
  (ensures_kind? (Q := fun k d' => Q (k == some .directory) d') hs h).bind
    fun _ _ h => ensures_pure h

/-! ### Loops -/

/-- What each turn of a loop adds to, the loop brings about for all items. -/
theorem ensures_forM (items : List α) {f : α → Job Unit} {I : List α → Disk → Prop}
    (hi : I [] d) (hf : ∀ done, ∀ x ∈ items, ∀ d', I done d' →
      Ensures s S (fun _ d'' => I (done ++ [x]) d'') (f x) d') :
    Ensures s S (fun _ d' => I items d') (items.forM f) d := by
  suffices h : ∀ rest done d, (∀ x ∈ rest, x ∈ items) → I done d →
      Ensures s S (fun _ d' => I (done ++ rest) d') (rest.forM f) d from
    h items [] d (fun _ h => h) hi
  intro rest
  induction rest with
  | nil =>
    intro done d _ hd
    rw [List.append_nil]
    exact ensures_pure hd
  | cons x rest ih =>
    intro done d hmem hd
    refine (hf done x (hmem x List.mem_cons_self) d hd).bind fun _ d' hd' => ?_
    have h := ih (done ++ [x]) d' (fun y hy => hmem y (List.mem_cons_of_mem _ hy)) hd'
    rw [List.append_assoc] at h
    exact h

end

end Job
end Quarantine
