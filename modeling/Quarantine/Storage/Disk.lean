import Quarantine.Storage.Action

/-!
# Disks

A value that stands for a file system: directories and files at places, a place being the names
on the way to it.  The empty place is the directory that paths start from.

    (put d k n).get? k' = if k' = k then some n else d.get? k'    (k not empty)
    run s (a >>= f) d   = run s (f (run s a d).1) (run s a d).2
-/

namespace Quarantine

/-- The names on the way to a place. -/
abbrev Place := List String

inductive Node where
  | file (content : ByteArray)
  | directory
  deriving Inhabited

def Node.kind : Node → Kind
  | file _ => .file
  | directory => .directory

/-- The nodes by their places; no two are at one place. -/
structure Disk where
  nodes : List (Place × Node)
  distinct : (nodes.map Prod.fst).Nodup

namespace Disk

def empty : Disk := ⟨[], List.nodup_nil⟩

instance : Inhabited Disk := ⟨empty⟩

/-! ## Nodes -/

def get? (d : Disk) (place : Place) : Option Node :=
  if place = [] then some .directory else d.nodes.lookup place

/-- Sets the node at a place. -/
def putNode (place : Place) (node : Node) : List (Place × Node) → List (Place × Node)
  | [] => [(place, node)]
  | (p, n) :: rest =>
    if p = place then (p, node) :: rest else (p, n) :: putNode place node rest

theorem mem_places_putNode {place other : Place} {node : Node} {nodes : List (Place × Node)}
    (h : other ∈ (putNode place node nodes).map Prod.fst) :
    other = place ∨ other ∈ nodes.map Prod.fst := by
  induction nodes with
  | nil => simpa [putNode] using h
  | cons n rest ih =>
    obtain ⟨p, m⟩ := n
    unfold putNode at h
    split at h
    · exact .inr h
    · rcases List.mem_cons.1 h with h | h
      · exact .inr (h ▸ List.mem_cons_self)
      · exact (ih h).imp_right (List.mem_cons_of_mem _)

theorem nodup_putNode (place : Place) (node : Node) {nodes : List (Place × Node)}
    (h : (nodes.map Prod.fst).Nodup) : ((putNode place node nodes).map Prod.fst).Nodup := by
  induction nodes with
  | nil => simp [putNode]
  | cons n rest ih =>
    obtain ⟨p, m⟩ := n
    obtain ⟨hp, hrest⟩ := List.nodup_cons.1 h
    unfold putNode
    split
    · exact h
    · next hne =>
      refine List.nodup_cons.2 ⟨fun hm => ?_, ih hrest⟩
      exact (mem_places_putNode hm).elim hne hp

def put (d : Disk) (place : Place) (node : Node) : Disk :=
  ⟨putNode place node d.nodes, nodup_putNode place node d.distinct⟩

/-- The nodes that satisfy a condition. -/
def filter (d : Disk) (p : Place × Node → Bool) : Disk :=
  ⟨d.nodes.filter p, d.distinct.sublist (List.filter_sublist.map _)⟩

def erase (d : Disk) (place : Place) : Disk := d.filter (·.1 != place)

/-- Removes all that is at a place or below it. -/
def eraseTree (d : Disk) (place : Place) : Disk := d.filter fun n => !place.isPrefixOf n.1

/-- What is directly in a directory, in the order of the names. -/
def children (d : Disk) (place : Place) : List (String × Kind) :=
  (d.nodes.filterMap fun (p, n) =>
    match p.getLast? with
    | some name => if p.dropLast = place then some (name, n.kind) else none
    | none => none).mergeSort fun a b => a.1 ≤ b.1

/-! ## Ways -/

/-- The longest name, in bytes. -/
def longestName : Nat := 255

/-- The place that names lead to from a directory.  All but the last must be directories. -/
def walk (d : Disk) (start : Place) : List String → Except SystemError Place
  | [] => .ok start
  | name :: rest =>
    if name = ".." then walk d start.dropLast rest
    else if name.utf8ByteSize > longestName then .error .nameTooLong
    else
      let place := start ++ [name]
      if rest.isEmpty then .ok place
      else match d.get? place with
        | some .directory => walk d place rest
        | some (.file _) => .error .notDirectory
        | none => .error .notFound

/-- The place of a path; an empty path has none. -/
def locate (d : Disk) (path : Path) : Except SystemError Place :=
  if path.text.isEmpty then .error .notFound else d.walk [] path.names

/-- The place of a path and the node there. -/
def find (d : Disk) (path : Path) : Except SystemError (Place × Node) := do
  let place ← d.locate path
  match d.get? place with
  | some node => return (place, node)
  | none => throw .notFound

/-! ## Operations -/

def inspect (d : Disk) (path : Path) : Except SystemError Kind := return (← d.find path).2.kind

def list (d : Disk) (path : Path) : Except SystemError (List (String × Kind)) := do
  match ← d.find path with
  | (place, .directory) => return d.children place
  | (_, .file _) => throw .notDirectory

def read (d : Disk) (path : Path) : Except SystemError ByteArray := do
  match ← d.find path with
  | (_, .file content) => return content
  | (_, .directory) => throw .isDirectory

def makeDirectory (d : Disk) (path : Path) : Except SystemError Disk := do
  let place ← d.locate path
  match d.get? place with
  | some _ => throw .alreadyExists
  | none => return d.put place .directory

def create (d : Disk) (path : Path) : Except SystemError Disk := do
  let place ← d.locate path
  match d.get? place with
  | some .directory => throw .isDirectory
  | _ => return d.put place (.file .empty)

def append (d : Disk) (path : Path) (content : ByteArray) : Except SystemError Disk := do
  match ← d.find path with
  | (place, .file before) => return d.put place (.file (before ++ content))
  | (_, .directory) => throw .isDirectory

/-- Puts a file in another place, where no directory may be. -/
def rename (d : Disk) (source target : Path) : Except SystemError Disk := do
  match ← d.find source with
  | (_, .directory) => throw .isDirectory
  | (place, .file content) =>
    let new ← d.locate target
    match d.get? new with
    | some .directory => throw .isDirectory
    | _ => return (d.erase place).put new (.file content)

def remove (d : Disk) (path : Path) : Except SystemError Disk := do
  match ← d.find path with
  | (place, .file _) => return d.erase place
  | (_, .directory) => throw .isDirectory

/-! ## Running actions -/

/-- What operations that are not about files reply. -/
structure Surroundings where
  time : Instant
  id : String

/-- The outcome of a change: the changed disk, or an error and the disk as it was. -/
def change (d : Disk) : Except SystemError Disk → Except SystemError Unit × Disk
  | .ok d' => (.ok (), d')
  | .error e => (.error e, d)

/-- The reply to an operation, and the disk after it. -/
def respond (s : Surroundings) (d : Disk) :
    (op : Operation) → Except SystemError op.Reply × Disk
  | .inspect path => (d.inspect path, d)
  | .list path => (d.list path, d)
  | .read path => (d.read path, d)
  | .makeDirectory path => d.change (d.makeDirectory path)
  | .create path => d.change (d.create path)
  | .append path content => d.change (d.append path content)
  | .rename source target => d.change (d.rename source target)
  | .remove path => d.change (d.remove path)
  | .now => (.ok s.time, d)
  | .newId => (.ok s.id, d)

end Disk

/-- Does an action on a disk. -/
def Action.run {α : Type} (s : Disk.Surroundings) : Action α → Disk → α × Disk
  | .done a, d => (a, d)
  | .perform op next, d =>
    let (reply, d') := d.respond s op
    (next reply).run s d'

/-! ## Lemmas -/

namespace Disk

theorem lookup_putNode (place other : Place) (node : Node) (nodes : List (Place × Node)) :
    (putNode place node nodes).lookup other =
      if other = place then some node else nodes.lookup other := by
  induction nodes with
  | nil =>
    by_cases h : other = place
    · simp [putNode, h]
    · simp [putNode, List.lookup_cons, beq_eq_false_iff_ne.2 h, h]
  | cons n rest ih =>
    obtain ⟨p, m⟩ := n
    unfold putNode
    by_cases hp : p = place
    · subst hp
      rw [if_pos rfl, List.lookup_cons, List.lookup_cons]
      by_cases h : other = p
      · simp [h]
      · simp [beq_eq_false_iff_ne.2 h, h]
    · rw [if_neg hp, List.lookup_cons, List.lookup_cons, ih]
      by_cases h : other = p
      · subst h; simp [hp]
      · simp [beq_eq_false_iff_ne.2 h]

theorem get?_put {d : Disk} {place : Place} (h : place ≠ []) (other : Place) (node : Node) :
    (d.put place node).get? other = if other = place then some node else d.get? other := by
  unfold get? put
  by_cases ho : other = []
  · subst ho; simp [Ne.symm h]
  · simp [ho, lookup_putNode]

end Disk

theorem Action.run_bind {α β : Type} (s : Disk.Surroundings) (a : Action α) (f : α → Action β)
    (d : Disk) : (a >>= f).run s d = (f (a.run s d).1).run s (a.run s d).2 := by
  show (a.bind f).run s d = _
  induction a generalizing d with
  | done a => rfl
  | perform op next ih => exact ih _ _

end Quarantine
