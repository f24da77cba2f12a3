import ChainCheckpoints.Json.Record
import ChainCheckpoints.Proofs.Json.Text

/-!
# Reading Back Typed Values

A writer and a reader of one type go together if the reader takes each value from what the writer makes
of it. Where the writer uses no strings but text, this carries over from values to texts. Both facts
are put together here as `RoundTrips`, so that a format is settled by its parts: simple types first,
then lists, then records.

A record is written with its names in order and without repetition. The reader looks each name up, and
finds the one value that was written for it.

## Main definitions

* `Json.RoundTrips`: a reader takes what a writer produces, and that is textual.

## Theorems

* `Json.RoundTrips.ofText?_toText`: a value is read back from its text.
* `Json.roundTrips_word32`, `Json.roundTrips_word64`, `Json.roundTrips_bytes`,
  `Json.roundTrips_text`: the simple types.
* `Json.RoundTrips.list`: lists.
* `Json.fields?_object`: the fields of an object, if nothing in it is at fault.
* `Json.fields?_record`, `Json.record?_record`: the fields of a record that was written.
-/

namespace ChainCheckpoints

namespace Json

section

variable {α β : Type} {write : α → Json} {read? : Json → Option α}

/-- The reader takes each value from what the writer makes of it, in which all strings are text. -/
structure RoundTrips (write : α → Json) (read? : Json → Option α) : Prop where
  textual : ∀ a, (write a).IsTextual
  read : ∀ a, read? (write a) = some a

theorem RoundTrips.ofText?_toText (h : RoundTrips write read?) (a : α) :
    (ofText? (write a).toText).bind read? = some a := by
  rw [Json.ofText?_toText (h.textual a), Option.bind_some, h.read]

theorem mapM_map_eq_some {γ : Type} {f : α → β} {g : β → Option γ} {k : α → γ} {l : List α}
    (h : ∀ a ∈ l, g (f a) = some (k a)) : (l.map f).mapM g = some (l.map k) := by
  induction l with
  | nil => rfl
  | cons a l ih =>
    rw [List.map_cons, List.mapM_cons, h a List.mem_cons_self,
      ih fun b hb => h b (List.mem_cons_of_mem a hb)]
    rfl

theorem RoundTrips.list (h : RoundTrips write read?) :
    RoundTrips (fun l => .array (l.map write)) (list? read?) where
  textual l := by
    refine .array fun item hitem => ?_
    rcases List.mem_map.1 hitem with ⟨a, _, rfl⟩
    exact h.textual a
  read l := by
    rw [list?, mapM_map_eq_some fun a _ => h.read a, List.map_id']

end

/-! ### Simple types -/

theorem below?_natural {bound n : Nat} (h : n < bound) : (natural n).below? bound = some n :=
  if_pos h

theorem roundTrips_byte : RoundTrips (fun b : UInt8 => .natural b.toNat) byte? where
  textual b := .natural b.toNat
  read b := by rw [byte?, below?_natural b.toNat_lt, Option.map_some, UInt8.ofNat_toNat]

theorem roundTrips_word32 : RoundTrips ofWord32 word32? where
  textual w := .natural w.toNat
  read w := by rw [word32?, ofWord32, below?_natural w.toNat_lt, Option.map_some, UInt32.ofNat_toNat]

theorem roundTrips_word64 : RoundTrips ofWord64 word64? where
  textual w := .natural w.toNat
  read w := by rw [word64?, ofWord64, below?_natural w.toNat_lt, Option.map_some, UInt64.ofNat_toNat]

/-- Bytes are written as an array, and this is one of the two ways in which they are read. -/
theorem roundTrips_bytes : RoundTrips ofBytes bytes? where
  textual := roundTrips_byte.list.textual
  read := roundTrips_byte.list.read

theorem glyphText?_ofString (t : String) : Glyph.text? (Glyph.ofString t) = some t := by
  have hchars : (t.toList.map Glyph.char).mapM Glyph.char? = some (t.toList.map id) :=
    mapM_map_eq_some fun _ _ => rfl
  rw [Glyph.text?, Glyph.ofString, hchars, Option.map_some, List.map_id, String.ofList_toList]

theorem roundTrips_text : RoundTrips text text? where
  textual := .text
  read := glyphText?_ofString

/-! ### Records -/

section

variable {fields : List (String × Json)} {names : List String}

/-- A name that is not repeated has the value that stands with it. -/
theorem valueOf?_of_mem {name : String} {value : Json} (hnodup : (fields.map Prod.fst).Nodup)
    (hmem : (name, value) ∈ fields) : valueOf? fields name = some (some value) := by
  have hfilter : fields.filter (·.1 = name) = [(name, value)] := by
    induction fields with
    | nil => cases hmem
    | cons field fields ih =>
      rw [List.map_cons, List.nodup_cons] at hnodup
      rcases List.mem_cons.1 hmem with rfl | hmem
      -- Further on the name does not come again, and before its place it does not come at all.
      · have hnone : fields.filter (·.1 = name) = [] := by
          refine List.filter_eq_nil_iff.2 fun other hother heq => hnodup.1 ?_
          exact List.mem_map.2 ⟨other, hother, of_decide_eq_true heq⟩
        rw [List.filter_cons_of_pos (by exact decide_eq_true rfl), hnone]
      · have hne : field.1 ≠ name := by
          intro heq
          exact hnodup.1 (List.mem_map.2 ⟨_, hmem, heq.symm⟩)
        rw [List.filter_cons_of_neg (by simpa using hne), ih hnodup.2 hmem]
  rw [valueOf?, hfilter]

/-- The fields of an object whose names are text, and whose values may be ignored if they are not
    wanted. -/
theorem fields?_object {members : List (List Glyph × Json)}
    (hread : (members.mapM fun member => (Glyph.text? member.1).map (·, member.2)) = some fields)
    (hknown : ∀ field ∈ fields, field.1 ∈ names ∨ field.2.isStrict = true) :
    (object members).fields? names = names.mapM (valueOf? fields) := by
  have hall : (fields.all fun field => field.1 ∈ names ∨ field.2.isStrict = true) = true :=
    List.all_eq_true.2 fun field hfield => decide_eq_true (hknown field hfield)
  show ((members.mapM fun member => (Glyph.text? member.1).map (·, member.2)) >>= fun named =>
    if named.all fun field => field.1 ∈ names ∨ field.2.isStrict = true then
      names.mapM (valueOf? named)
    else none) = _
  rw [hread]
  exact if_pos hall

theorem fields?_record (hnames : fields.map Prod.fst = names) (hnodup : names.Nodup) :
    (record fields).fields? names = some (fields.map fun field => some field.2) := by
  subst hnames
  have hread : ((fields.map fun field => (Glyph.ofString field.1, field.2)).mapM fun member =>
      (Glyph.text? member.1).map (·, member.2)) = some (fields.map id) := by
    refine mapM_map_eq_some fun field _ => ?_
    exact congrArg (Option.map (·, field.2)) (glyphText?_ofString field.1)
  have hvalues : (fields.map Prod.fst).mapM (valueOf? fields) =
      some (fields.map fun field => some field.2) :=
    mapM_map_eq_some fun field hfield => valueOf?_of_mem hnodup hfield
  rw [List.map_id] at hread
  rw [← hvalues]
  exact fields?_object hread fun field hfield => .inl (List.mem_map_of_mem hfield)

theorem record?_record (hnames : fields.map Prod.fst = names) (hnodup : names.Nodup) :
    (record fields).record? names = some (fields.map Prod.snd) := by
  have hall : (fields.map fun field => some field.2).mapM id = some (fields.map Prod.snd) :=
    mapM_map_eq_some fun field _ => rfl
  rw [record?, fields?_record hnames hnodup]
  exact hall

end

end Json

end ChainCheckpoints
