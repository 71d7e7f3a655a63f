/-!
# Tables

A settings text builds a tree of tables. A key may be given once, and a table may
be opened once: a table that came about on the way to another one may still get a
header of its own, but one that was built by dotted keys may not, and dotted keys
may not add to a table that has a header. Of an array of tables the last one is
the one that grows.
-/

set_option autoImplicit false

namespace ControlPlane.Toml

inductive Value where
  | bool (b : Bool)
  | int (n : Int)
  | text (s : String)
  /-- A value of a type that no setting has. -/
  | other
  deriving DecidableEq

inductive Origin where
  | implied
  | dotted
  | opened
  deriving DecidableEq

inductive Item where
  | value (v : Value)
  | table (origin : Origin) (items : List (String × Item))
  | rows (last : List (String × Item))

abbrev Items := List (String × Item)

namespace Items

def get? (items : Items) (key : String) : Option Item := items.lookup key

def set (items : Items) (key : String) (item : Item) : Items :=
  (key, item) :: items.filter fun p => p.1 ≠ key

def alter (way : Origin) (change : Origin → Items → Option Items) :
    List String → Origin → Items → Option Items
  | [], origin, items => change origin items
  | k :: ks, _, items =>
    match items.get? k with
    | none => (alter way change ks way []).map fun below => items.set k (.table way below)
    | some (.value _) => none
    | some (.rows last) => (alter way change ks .opened last).map fun below =>
        items.set k (.rows below)
    | some (.table origin inner) =>
      if way = .dotted ∧ origin = .opened then none
      else (alter way change ks origin inner).map fun below => items.set k (.table origin below)

def addValue (key : String) (v : Value) (items : Items) : Option Items :=
  match items.get? key with
  | none => some (items.set key (.value v))
  | some _ => none

def add (path : List String) (key : String) (v : Value) (items : Items) : Option Items :=
  items.alter .dotted
    (fun origin inner =>
      if path ≠ [] ∧ origin ≠ .dotted then none else addValue key v inner)
    path .opened

def openTable (key : String) (items : Items) : Option Items :=
  match items.get? key with
  | none => some (items.set key (.table .opened []))
  | some (.table .implied inner) => some (items.set key (.table .opened inner))
  | some _ => none

def openRow (key : String) (items : Items) : Option Items :=
  match items.get? key with
  | none | some (.rows _) => some (items.set key (.rows []))
  | some _ => none

end Items

structure Entry where
  path : List String
  key : String
  value : Value

inductive Line where
  | blank
  | entry (e : Entry)
  | table (path : List String) (key : String)
  | row (path : List String) (key : String)

structure Tree where
  root : Items := []
  here : List String := []

def Tree.take (t : Tree) : Line → Option Tree
  | .blank => some t
  | .entry e =>
    (t.root.alter .implied (fun _ items => items.add e.path e.key e.value) t.here .opened).map
      fun root => { t with root }
  | .table path key =>
    (t.root.alter .implied (fun _ items => items.openTable key) path .opened).map
      fun root => ⟨root, path ++ [key]⟩
  | .row path key =>
    (t.root.alter .implied (fun _ items => items.openRow key) path .opened).map
      fun root => ⟨root, path ++ [key]⟩

def build (lines : List Line) : Option Items :=
  (lines.foldlM Tree.take {}).map (·.root)

def agree (entries : List Entry) : Bool :=
  (build (entries.map .entry)).isSome

end ControlPlane.Toml
