import HostDaemon.Wire.Record
import Mathlib.Data.List.Basic

/-! # Records that are read as they were written

  When a record's fields make a value, field by field.

  - `Wire.Fields.Makes` says that the members of an object make a value. It is kept by `map` and
    `seq`, as the fields of a record are put together.
  - `Wire.Fields.Makes.decode_eq` says that the object is then read as that value.
  - The lemmas on values say that a number, a list or a value that may be missing is read as it was
    written. -/

namespace HostDaemon.Wire

/-! ### Values -/

theorem integer_eq_ok {low high n : Int} (expected : String) (hlow : low ≤ n) (hhigh : n ≤ high) :
    integer low high expected (.integer n) = .ok n := by
  rw [integer, if_pos ⟨hlow, hhigh⟩]

theorem uint16_ofUInt16 (n : UInt16) : uint16 (.ofUInt16 n) = .ok n := by
  have hn := n.toNat_lt
  rw [uint16, Json.ofUInt16, integer_eq_ok "u16" (by omega) (by omega)]
  simp [Except.map]

theorem uint32_ofUInt32 (n : UInt32) : uint32 (.ofUInt32 n) = .ok n := by
  have hn := n.toNat_lt
  rw [uint32, Json.ofUInt32, integer_eq_ok "u32" (by omega) (by omega)]
  simp [Except.map]

theorem uint64_ofUInt64 (n : UInt64) : uint64 (.ofUInt64 n) = .ok n := by
  have hn := n.toNat_lt
  rw [uint64, Json.ofUInt64, integer_eq_ok "u64" (by omega) (by omega)]
  simp [Except.map]

theorem count_ofUInt64 (n : UInt64) : count (.ofUInt64 n) = .ok n := by
  have hn := n.toNat_lt
  rw [count, Json.ofUInt64, integer_eq_ok "usize" (by omega) (by omega)]
  simp [Except.map]

theorem int64_ofInt64 (n : Int64) : int64 (.ofInt64 n) = .ok n := by
  have hlow := n.le_toInt
  have hhigh := n.toInt_lt
  rw [int64, Json.ofInt64, integer_eq_ok "i64" (by omega) (by omega)]
  simp [Except.map]

theorem optional_eq_ok {α : Type} {decode : Json → Except DecodeFault α} {v : Json} {a : α}
    (hv : v ≠ .null) (h : decode v = .ok a) : optional decode v = .ok (some a) := by
  unfold optional
  split
  next => exact absurd rfl hv
  next => rw [h]; rfl

theorem list_eq_ok {α : Type} {decode : Json → Except DecodeFault α} {encode : α → Json}
    {values : List α} (h : ∀ a ∈ values, decode (encode a) = .ok a) :
    list decode (.array (values.map encode)) = .ok values := by
  show (values.map encode).mapM decode = .ok values
  induction values with
  | nil => rfl
  | cons a values ih =>
    rw [List.map_cons, List.mapM_cons, h a List.mem_cons_self,
      ih (fun b hb => h b (List.mem_cons_of_mem a hb))]
    rfl

theorem list_ofTexts (texts : List String) : list text (.ofTexts texts) = .ok texts :=
  list_eq_ok fun _ _ => rfl

/-! ### Members -/

theorem lookup_cons_of_ne {name other : String} {v : Json} {members : List (String × Json)}
    (h : name ≠ other) : ((other, v) :: members).lookup name = members.lookup name := by
  have hbeq : (name == other) = false := by simpa using h
  rw [List.lookup_cons, hbeq]

/-- There is nothing wrong with members that occur once, where each field finds a right value. -/
theorem Record.memberFault?_eq_none {fields : List Field} {seen : List String}
    {members : List (String × Json)} (hnodup : (members.map Prod.fst).Nodup)
    (hseen : ∀ m ∈ members, m.1 ∉ seen)
    (hright : ∀ f ∈ fields, ∀ v, members.lookup f.name = some v → f.fault? v = none) :
    memberFault? fields seen members = none := by
  induction members generalizing seen with
  | nil => rfl
  | cons m members ih =>
    obtain ⟨name, v⟩ := m
    rw [List.map_cons, List.nodup_cons] at hnodup
    have hlater : ∀ m ∈ members, m.1 ≠ name := by
      rintro m hm rfl
      exact hnodup.1 (List.mem_map.2 ⟨m, hm, rfl⟩)
    -- A field that finds its value later on has another name than this member.
    have hrest : ∀ f ∈ fields, ∀ w, members.lookup f.name = some w → f.fault? w = none := by
      intro f hf w hw
      have hname : f.name ≠ name := by
        intro hsame
        obtain ⟨before, after, hsplit, -⟩ := List.lookup_eq_some_iff.1 hw
        refine hlater (f.name, w) ?_ hsame
        rw [hsplit]
        simp
      exact hright f hf w (by rw [lookup_cons_of_ne hname]; exact hw)
    rw [memberFault?]
    split
    next => exact ih hnodup.2 (fun m hm => hseen m (List.mem_cons_of_mem _ hm)) hrest
    next field hfind =>
      have hname : field.name = name := by simpa using List.find?_some hfind
      have hfield : field ∈ fields := List.mem_of_find?_eq_some hfind
      have hfault : field.fault? v = none := by
        refine hright field hfield v ?_
        rw [hname, List.lookup_cons_self]
      rw [if_neg (hseen (name, v) List.mem_cons_self), hfault]
      refine ih hnodup.2 ?_ hrest
      intro m hm
      rw [List.mem_cons, not_or]
      exact ⟨hlater m hm, hseen m (List.mem_cons_of_mem _ hm)⟩

namespace Fields

variable {α β : Type} {members : List (String × Json)} {a : α} {v : Json} {name : String}
  {decode : Json → Except DecodeFault α}

/-- The fields make the value of the members of an object: each field that is there is right. -/
structure Makes (p : Fields α) (members : List (String × Json)) (a : α) : Prop where
  right : ∀ f ∈ p.all, ∀ v, members.lookup f.name = some v → f.fault? v = none
  taken : ∀ index, p.take (.named members) index = .ok a

theorem Makes.required (hmember : members.lookup name = some v) (hvalue : decode v = .ok a) :
    (required name decode).Makes members a := by
  refine ⟨?_, ?_⟩
  · intro f hf w hw
    obtain rfl := List.mem_singleton.1 hf
    rw [hmember] at hw
    cases hw
    show faultOf decode v = none
    rw [faultOf, hvalue]
  · intro index
    simp only [Fields.required, Record.field?, hmember]
    exact hvalue

theorem Makes.withDefault (default : α) (hmember : members.lookup name = some v)
    (hvalue : decode v = .ok a) : (withDefault name default decode).Makes members a := by
  refine ⟨(Makes.required hmember hvalue).right, ?_⟩
  intro index
  simp only [Fields.withDefault, Record.field?, hmember]
  exact hvalue

theorem Makes.absent (default : α) (hmember : members.lookup name = none) :
    (Fields.withDefault name default decode).Makes members default := by
  refine ⟨?_, ?_⟩
  · intro f hf w hw
    obtain rfl := List.mem_singleton.1 hf
    rw [hmember] at hw
    cases hw
  · intro index
    simp only [Fields.withDefault, Record.field?, hmember]

/-- A value that may be missing is left out where it is. -/
theorem Makes.optional {value : Option α} (encode : α → Json)
    (hmember : members.lookup name = value.map encode) (hnull : ∀ a, encode a ≠ .null)
    (hvalue : ∀ a, decode (encode a) = .ok a) :
    (Fields.withDefault name none (Wire.optional decode)).Makes members value := by
  cases value with
  | none => exact .absent none hmember
  | some a => exact .withDefault none hmember (optional_eq_ok (hnull a) (hvalue a))

theorem Makes.map {p : Fields α} (f : α → β) (h : p.Makes members a) :
    (f <$> p).Makes members (f a) := by
  refine ⟨h.right, ?_⟩
  intro index
  show (p.take (.named members) index).map f = .ok (f a)
  rw [h.taken]
  rfl

theorem Makes.seq {p : Fields (α → β)} {q : Fields α} {f : α → β} (hp : p.Makes members f)
    (hq : q.Makes members a) : (p <*> q).Makes members (f a) := by
  refine ⟨?_, ?_⟩
  · intro field hfield
    rcases List.mem_append.1 hfield with hfront | hback
    · exact hp.right field hfront
    · exact hq.right field hback
  · intro index
    show (do
      let f ← p.take (.named members) index
      let a ← q.take (.named members) (index + p.all.length)
      return f a) = .ok (f a)
    rw [hp.taken, hq.taken]
    rfl

/-- An object whose members the fields make a value of is read as that value. -/
theorem Makes.decode_eq {p : Fields α} (h : p.Makes members a) (what : String)
    (hnodup : (members.map Prod.fst).Nodup) : p.decode what (.object members) = .ok a := by
  rw [Fields.decode, Record.ofJson, Record.memberFault?_eq_none hnodup (by simp) h.right]
  exact h.taken 0

end Fields

end HostDaemon.Wire
