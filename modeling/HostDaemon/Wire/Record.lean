import HostDaemon.Wire.Decode

/-! # Decoding records

A record is written as an object, in which members that it does not know are passed over and none
that it knows may occur twice, or as an array with the fields in their order. Of several faults the
one counts that is seen first when the members or items are gone through in their order; that a
field is missing is seen at the end. -/

namespace HostDaemon.Wire

/-- A field of a record. -/
structure Field where
  /-- The name. -/
  name : String
  /-- What is wrong with a value for it. -/
  fault? : Json → Option DecodeFault

/-- What a record's fields are taken from. -/
inductive Record where
  /-- The members of an object. -/
  | named (members : List (String × Json))
  /-- The items of an array; `expected` describes the record for a fault. -/
  | listed (items : List Json) (expected : String)

/-- A number of things in words. -/
def elements (n : Nat) : String := s!"{n} element" ++ if n = 1 then "" else "s"

namespace Record

/-- What is wrong with the members of an object, where `seen` holds the fields before them. -/
def memberFault? (fields : List Field) (seen : List String) :
    List (String × Json) → Option DecodeFault
  | [] => none
  | (name, v) :: members =>
    match fields.find? (·.name = name) with
    | none => memberFault? fields seen members
    | some field =>
      if name ∈ seen then some (.duplicateField name)
      else
        match field.fault? v with
        | some fault => some fault
        | none => memberFault? fields (name :: seen) members

/-- What is wrong with the items of an array, where `before` fields came before them. -/
def itemFault? (before : Nat) : List Field → List Json → Option DecodeFault
  | _, [] => none
  | [], item :: items =>
    some (.invalidLength (before + (item :: items).length) (elements before ++ " in sequence"))
  | field :: fields, item :: items =>
    match field.fault? item with
    | some fault => some fault
    | none => itemFault? (before + 1) fields items

/-- The record that a value holds; `what` names it. Each field that is there is right. -/
def ofJson (what : String) (fields : List Field) : Json → Except DecodeFault Record
  | .object members =>
    match memberFault? fields [] members with
    | some fault => .error fault
    | none => .ok (.named members)
  | .array items =>
    match itemFault? 0 fields items with
    | some fault => .error fault
    | none => .ok (.listed items (s!"{what} with " ++ elements fields.length))
  | v => .error (.invalidType (describe v) what)

/-- The value of a field, which is the `index`-th where the fields are listed. -/
def field? (r : Record) (index : Nat) (name : String) : Option Json :=
  match r with
  | .named members => members.lookup name
  | .listed items _ => items[index]?

/-- The fault of a record that lacks a field. -/
def missing (r : Record) (index : Nat) (name : String) : DecodeFault :=
  match r with
  | .named _ => .missingField name
  | .listed _ expected => .invalidLength index expected

end Record

/-! ### Fields of a record -/

/-- A part of a record: its fields, and the value that they make. -/
structure Fields (α : Type) where
  /-- The fields in order. -/
  all : List Field
  /-- The value that they make in a record, where the first of them has an index. -/
  take : Record → Nat → Except DecodeFault α

namespace Fields

/-- The fault of a value that cannot be decoded. -/
def faultOf {α : Type} (decode : Json → Except DecodeFault α) (v : Json) : Option DecodeFault :=
  match decode v with
  | .ok _ => none
  | .error fault => some fault

/-- A field that has to be there. -/
def required {α : Type} (name : String) (decode : Json → Except DecodeFault α) : Fields α where
  all := [⟨name, faultOf decode⟩]
  take := fun r index =>
    match r.field? index name with
    | some v => decode v
    | none => .error (r.missing index name)

/-- A field that may be missing. -/
def withDefault {α : Type} (name : String) (default : α) (decode : Json → Except DecodeFault α) :
    Fields α where
  all := [⟨name, faultOf decode⟩]
  take := fun r index =>
    match r.field? index name with
    | some v => decode v
    | none => .ok default

/-- No fields, and a value. -/
protected def pure {α : Type} (a : α) : Fields α := ⟨[], fun _ _ => .ok a⟩

/-- Change the value that is made. -/
protected def map {α β : Type} (f : α → β) (p : Fields α) : Fields β :=
  ⟨p.all, fun r index => (p.take r index).map f⟩

/-- Fields after others. -/
protected def seq {α β : Type} (p : Fields (α → β)) (q : Fields α) : Fields β where
  all := p.all ++ q.all
  take := fun r index => do
    let f ← p.take r index
    let a ← q.take r (index + p.all.length)
    return f a

instance : Functor Fields where
  map := Fields.map

instance : Applicative Fields where
  pure := Fields.pure
  seq p q := Fields.seq p (q ())

/-- The value of a record. -/
def decode {α : Type} (what : String) (p : Fields α) (v : Json) : Except DecodeFault α := do
  let r ← Record.ofJson what p.all v
  p.take r 0

end Fields

end HostDaemon.Wire
