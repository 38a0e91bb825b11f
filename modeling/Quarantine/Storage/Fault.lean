import Quarantine.Storage.Disk

/-!
# Faults

Operations may be refused, and a program may end between two of them.  A list of fates says what
becomes of the operations of an action in turn; once it is used up all of them are carried out.
An operation that has no way to fail is never refused: a look at a path says yes or no.

    a.runUnder s [] d                  = a.run s d, with its result
    (a >>= f).runUnder s fates d       = f after a, unless the program ended in a
-/

namespace Quarantine

/-- What becomes of an operation. -/
inductive Fate where
  | carriedOut
  /-- It fails and changes nothing. -/
  | refused (error : SystemError)
  /-- It fails, and if it adds to a file, some bytes were added. -/
  | cutShort (bytes : Nat) (error : SystemError)
  /-- The program ends before it. -/
  | ended
  deriving DecidableEq

/-- Whether an operation can be refused.  A look at what a path leads to has yes and no for an
answer and no failure besides; the time and a new text are always to be had. -/
def Operation.canFail : Operation → Bool
  | .inspect _ | .now | .newId => false
  | _ => true

/-- What an action leaves: its result, unless the program ended, the fates that were not met, and
the disk. -/
structure Aftermath (α : Type) where
  result : Option α
  fates : List Fate
  disk : Disk

/-- The disk after an operation of which only some bytes were written. -/
def Disk.cut (d : Disk) (bytes : Nat) : Operation → Disk
  | .append path content => (d.change (d.append path (content.extract 0 bytes))).2
  | _ => d

namespace Disk

/-- The reply to an operation under a fate, and the disk after it; `none` where the program
ends. -/
def respondUnder (s : Surroundings) (d : Disk) (op : Operation) :
    Fate → Option (Except SystemError op.Reply × Disk)
  | .carriedOut => some (d.respond s op)
  | .refused e => some (if op.canFail then (.error e, d) else d.respond s op)
  | .cutShort n e => some (if op.canFail then (.error e, d.cut n op) else d.respond s op)
  | .ended => none

end Disk

namespace Action

/-- Does an action whose operations meet fates. -/
def runUnder {α : Type} (s : Disk.Surroundings) : Action α → List Fate → Disk → Aftermath α
  | .done a, fates, d => ⟨some a, fates, d⟩
  | .perform op next, fates, d =>
    match d.respondUnder s op (fates.headD .carriedOut) with
    | some (reply, d') => (next reply).runUnder s fates.tail d'
    | none => ⟨none, fates.tail, d⟩

/-! ## Lemmas -/

theorem runUnder_nil {α : Type} (s : Disk.Surroundings) (a : Action α) (d : Disk) :
    a.runUnder s [] d = ⟨some (a.run s d).1, [], (a.run s d).2⟩ := by
  induction a generalizing d with
  | done a => rfl
  | perform op next ih => exact ih _ _

theorem runUnder_bind {α β : Type} (s : Disk.Surroundings) (a : Action α) (f : α → Action β)
    (fates : List Fate) (d : Disk) :
    (a >>= f).runUnder s fates d =
      match a.runUnder s fates d with
      | ⟨some x, fates, d⟩ => (f x).runUnder s fates d
      | ⟨none, fates, d⟩ => ⟨none, fates, d⟩ := by
  show (a.bind f).runUnder s fates d = _
  induction a generalizing fates d with
  | done a => rfl
  | perform op next ih =>
    show (Action.perform op fun reply => (next reply).bind f).runUnder s fates d = _
    simp only [runUnder]
    cases d.respondUnder s op (fates.headD .carriedOut) with
    | none => rfl
    | some reply => exact ih _ _ _

end Action
end Quarantine
