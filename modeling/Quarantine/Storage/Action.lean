import Quarantine.Instant
import Quarantine.Storage.Path
import Quarantine.Storage.SystemError

/-!
# Actions

What a program does outside itself is a tree: an operation, and for each reply to it what is
done next.  An action says nothing about who replies; it may be a file system, a value that
stands for one, or one that fails or stops at some operation.
-/

namespace Quarantine

/-- What a path leads to. -/
inductive Kind where
  | file
  | directory
  deriving DecidableEq

inductive Operation where
  | inspect (path : Path)
  /-- The names in a directory, ascending. -/
  | list (path : Path)
  | read (path : Path)
  /-- Makes one directory. -/
  | makeDirectory (path : Path)
  /-- Makes an empty file, in place of a file that is there. -/
  | create (path : Path)
  /-- Adds to the end of a file, and keeps it for good. -/
  | append (path : Path) (content : ByteArray)
  /-- Puts a file in the place of another, at once. -/
  | rename (source target : Path)
  /-- Removes a file. -/
  | remove (path : Path)
  /-- The time. -/
  | now
  /-- A text that no other has been. -/
  | newId

/-- What an operation that succeeds replies. -/
def Operation.Reply : Operation → Type
  | inspect _ => Kind
  | list _ => List (String × Kind)
  | read _ => ByteArray
  | now => Instant
  | newId => String
  | _ => Unit

inductive Action (α : Type) where
  | done (a : α)
  | perform (op : Operation) (next : Except SystemError op.Reply → Action α)

namespace Action

def bind {α β : Type} : Action α → (α → Action β) → Action β
  | done a, f => f a
  | perform op next, f => perform op fun reply => (next reply).bind f

instance : Monad Action where
  pure := done
  bind := bind

/-- A single operation. -/
def ask (op : Operation) : Action (Except SystemError op.Reply) := perform op done

theorem bind_done {α : Type} (a : Action α) : a.bind done = a := by
  induction a with
  | done a => rfl
  | perform op next ih => exact congrArg (perform op) (funext ih)

theorem bind_assoc {α β γ : Type} (a : Action α) (f : α → Action β) (g : β → Action γ) :
    (a.bind f).bind g = a.bind fun x => (f x).bind g := by
  induction a with
  | done a => rfl
  | perform op next ih => exact congrArg (perform op) (funext ih)

instance : LawfulMonad Action :=
  LawfulMonad.mk' Action (fun a => bind_done a) (fun _ _ => rfl) (fun a f g => bind_assoc a f g)

end Action
end Quarantine
