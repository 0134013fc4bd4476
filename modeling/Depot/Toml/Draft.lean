import Depot.Toml.Basic

/-!
# Documents under way

A document is read statement by statement: the header of a table, the header of
a further item of a list of tables, or a key with its value. A `Draft` is what
the statements so far make, and the marks that later statements have to respect:

* a table that was declared by its own header is not declared again, nor is it
  continued by dotted keys from elsewhere;
* the tables that dotted keys open within a section count as declared once the
  section ends;
* a list or an inline table is closed: nothing is added in it or below it.

Where an address goes through a list of tables it means the last of them.
-/

namespace Depot.Toml

/-- The members after a change in the table with an address. Tables on the way
    that are missing are made; there is none behind another value. -/
def update (f : Members → Option Members) : Address → Members → Option Members
  | [], ms => f ms
  | n :: ns, ms =>
    match (ms.find? fun m => m.1 = n).map (·.2) with
    | none => (update f ns []).map fun inner => ms ++ [(n, .table inner)]
    | some (.table inner) => (update f ns inner).map fun inner => replace n (.table inner) ms
    | some (.list items) =>
      match items.getLast? with
      | some (.table inner) =>
        (update f ns inner).map fun inner => replace n (.list (items.dropLast ++ [.table inner])) ms
      | _ => none
    | some _ => none
where
  /-- The members with another value for a name. -/
  replace (n : Text) (v : Value) (ms : Members) : Members :=
    ms.map fun m => if m.1 = n then (n, v) else m

/-- The members with one more, unless there is one with its name. -/
def define (n : Text) (v : Value) (ms : Members) : Option Members :=
  if ms.any fun m => m.1 = n then none else some (ms ++ [(n, v)])

/-- The members with one more table in the list with a name. -/
def addItem (n : Text) (ms : Members) : Option Members :=
  match (ms.find? fun m => m.1 = n).map (·.2) with
  | none => some (ms ++ [(n, .list [.table []])])
  | some (.list items) => some (update.replace n (.list (items ++ [.table []])) ms)
  | some _ => none

/-- What the statements so far make. -/
structure Draft where
  /-- The document. -/
  root : Members
  /-- The address of the section. -/
  header : Address
  /-- The tables declared. -/
  declared : List Address
  /-- The lists and tables that nothing may be added to. -/
  closed : List Address
  /-- The tables that count as declared from the end of the section on. -/
  pending : List Address

namespace Draft

/-- Before the first statement. -/
def empty : Draft := ⟨[], [], [], [], []⟩

/-- Whether nothing may be added at an address. -/
def isClosed (d : Draft) (a : Address) : Bool := d.closed.any fun c => c.isPrefixOf a

/-- The draft at the end of a section. -/
def endSection (d : Draft) : Draft :=
  { d with declared := d.pending ++ d.declared, pending := [] }

/-- The draft after the header of a table. -/
def openTable (k : Key) (d : Draft) : Except Fault Draft :=
  let d := d.endSection
  let a := k.address
  if a ∈ d.declared ∨ d.isClosed a then .error (.declaredTwice a)
  else
    match update some a d.root with
    | none => .error .overwritten
    | some root => .ok { d with root := root, header := a, declared := a :: d.declared }

/-- The draft after the header of a further item of a list of tables. -/
def openItem (k : Key) (d : Draft) : Except Fault Draft :=
  let d := d.endSection
  let a := k.address
  if d.isClosed a then .error (.closed a)
  else
    match update (addItem k.name) k.table d.root with
    | none => .error .overwritten
    | some root =>
      .ok { d with
        root := root
        header := a
        declared := a :: d.declared.filter fun b => !a.isPrefixOf b
        closed := d.closed.filter fun b => !a.isPrefixOf b }

/-- Whether a value takes no further members. -/
def closes : Value → Bool
  | .list _ => true
  | .table _ => true
  | _ => false

/-- The draft after a key with its value. -/
def assign (k : Key) (v : Value) (d : Draft) : Except Fault Draft :=
  let opened := (List.range k.table.length).map fun i => d.header ++ k.table.take (i + 1)
  let a := d.header ++ k.table
  match opened.find? (· ∈ d.declared) with
  | some b => .error (.redefined b)
  | none =>
    if d.isClosed a then .error (.closed a)
    else
      match update (define k.name v) a d.root with
      | none => .error .overwritten
      | some root =>
        .ok { d with
          root := root
          closed := if closes v then (d.header ++ k.address) :: d.closed else d.closed
          pending := opened ++ d.pending }

end Draft

/-! ## Inline tables -/

/-- The members of an inline table so far, and those that nothing may be added
    to. -/
structure Inline where
  members : Members
  closed : List Address

/-- The inline table after a key with its value. -/
def Inline.assign (k : Key) (v : Value) (d : Inline) : Except Fault Inline :=
  let a := k.address
  if d.closed.any fun c => c.isPrefixOf a then .error (.closed a)
  else
    match update some k.table d.members with
    | none => .error .overwritten
    | some _ =>
      match update (define k.name v) k.table d.members with
      | none => .error (.repeated k.name)
      | some members =>
        .ok ⟨members, if Draft.closes v then a :: d.closed else d.closed⟩

end Depot.Toml
