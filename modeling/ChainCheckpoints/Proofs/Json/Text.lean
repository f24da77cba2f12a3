import ChainCheckpoints.Json.Reader
import ChainCheckpoints.Json.Writer
import ChainCheckpoints.Proofs.Digest.Hex

/-!
# Reading Back Written JSON

A value whose strings are text is read back from what is written for it, whatever these strings hold:
quotes, backslashes and controls are escaped on the way out and nothing else is. Values nest, so each
part has to be read back in front of anything that can follow it there. Strings, arrays and objects
end with a sign of their own. A number does not: it ends where no further digit, point or exponent
comes, which is the one thing asked of what follows (`Ends`).

The fuel of the reader is measured against the length of the text. A container and the separator
behind an item have a character each, and that pays for the step into the container and along it.

## Main definitions

* `Json.IsTextual`: no string in a value holds half of a pair or a bare control.
* `Json.Ends`: what can follow a number.
* `Json.Starts`: what an item can start with.
* `Json.ReadsBack`: a value is read back in front of anything that can follow it.

## Theorems

* `Json.glyphs?_renderGlyphs`: a text in quotes is read back.
* `Json.number?_toDigits`: a natural is read back.
* `Json.items?_renderItems`, `Json.members?_renderFields`: so are items and fields, if they are one by
  one.
* `Json.IsTextual.readsBack`: so is every value whose strings are text.
* `Json.ofText?_toText`: such a value is read back from its text.
-/

namespace ChainCheckpoints

namespace Json

variable {c d : Char} {s s' s'' rest : List Char} {n fuel : Nat}

/-! ### Strings -/

/-- A glyph in front of those that were read. -/
def prepend (g : Glyph) (read : List Glyph × List Char) : List Glyph × List Char :=
  (g :: read.1, read.2)

theorem code?_digits (hn : n < 65536) :
    code? (Hex.digit (n / 4096)) (Hex.digit (n / 256 % 16)) (Hex.digit (n / 16 % 16))
      (Hex.digit (n % 16)) = some (UInt16.ofNat n) := by
  have hvalue : n / 4096 * 4096 + n / 256 % 16 * 256 + n / 16 % 16 * 16 + n % 16 = n := by omega
  have hfirst : n / 4096 < 16 := by omega
  have hmod (m : Nat) : m % 16 < 16 := Nat.mod_lt m (by decide)
  simp only [code?, Hex.value?_digit hfirst, Hex.value?_digit (hmod _), Option.bind_eq_bind,
    Option.bind_some, hvalue, Option.pure_def]

/-- A control is no half of a pair. -/
theorem ofCode_control (hn : n < 32) : Glyph.ofCode (UInt16.ofNat n) = .char (Char.ofNat n) := by
  revert n
  decide

theorem glyphs?_escape (hc : c.toNat < 32) (rest : List Char) :
    glyphs? (escape c.toNat ++ rest) = (glyphs? rest).map (prepend (.char c)) := by
  have hcode := code?_digits (Nat.lt_trans hc (by decide : 32 < 65536))
  have hglyph : Glyph.ofCode (UInt16.ofNat c.toNat) = .char c := by
    rw [ofCode_control hc, Char.ofNat_toNat]
  simp only [escape, List.cons_append, List.nil_append, glyphs?, hcode, hglyph, Option.bind_eq_bind,
    Option.bind_some]
  cases glyphs? rest <;> rfl

theorem glyphs?_shortEscape (hd : shortEscape? d = some c) (rest : List Char) :
    glyphs? ('\\' :: d :: rest) = (glyphs? rest).map (prepend (.char c)) := by
  -- The letter of the numbered escape is none of the short ones.
  have hletter : d ≠ 'u' := by
    rintro rfl
    cases hd
  rw [glyphs?]
  · rw [hd]
    cases glyphs? rest <;> rfl
  · intro _ _ _ _ _ hu
    exact absurd hu hletter

theorem glyphs?_literal (hquote : c ≠ '\x22') (hbackslash : c ≠ '\\') (hc : ¬ c.toNat < 32)
    (rest : List Char) : glyphs? (c :: rest) = (glyphs? rest).map (prepend (.char c)) := by
  have hliteral : literal c = .char c := dif_neg hc
  rw [glyphs?]
  · rw [hliteral]
    cases glyphs? rest <;> rfl
  · exact hquote
  -- The rest are the escapes, numbered or short.
  all_goals
    intros
    exact hbackslash ‹_›

/-- A written character is read back, whatever follows it. -/
theorem glyphs?_renderGlyph (c : Char) (rest : List Char) :
    glyphs? (renderGlyph (.char c) ++ rest) = (glyphs? rest).map (prepend (.char c)) := by
  by_cases hquote : c = '\x22'
  · subst hquote
    exact glyphs?_shortEscape rfl rest
  by_cases hbackslash : c = '\\'
  · subst hbackslash
    exact glyphs?_shortEscape rfl rest
  by_cases hbackspace : c = '\x08'
  · subst hbackspace
    exact glyphs?_shortEscape rfl rest
  by_cases hfeed : c = '\x0c'
  · subst hfeed
    exact glyphs?_shortEscape rfl rest
  by_cases hnewline : c = '\n'
  · subst hnewline
    exact glyphs?_shortEscape rfl rest
  by_cases hreturn : c = '\r'
  · subst hreturn
    exact glyphs?_shortEscape rfl rest
  by_cases htab : c = '\t'
  · subst htab
    exact glyphs?_shortEscape rfl rest
  rw [renderGlyph, if_neg hquote, if_neg hbackslash, if_neg hbackspace, if_neg hfeed,
    if_neg hnewline, if_neg hreturn, if_neg htab]
  by_cases hcontrol : c.toNat < 32
  · rw [if_pos hcontrol]
    exact glyphs?_escape hcontrol rest
  · rw [if_neg hcontrol]
    exact glyphs?_literal hquote hbackslash hcontrol rest

theorem glyphs?_renderGlyphs (text : List Char) (rest : List Char) :
    glyphs? ((text.map Glyph.char).flatMap renderGlyph ++ '\x22' :: rest) =
      some (text.map Glyph.char, rest) := by
  induction text with
  | nil => rw [List.map_nil, List.flatMap_nil, List.nil_append, glyphs?]
  | cons c text ih =>
    rw [List.map_cons, List.flatMap_cons, List.append_assoc, glyphs?_renderGlyph, ih,
      Option.map_some, prepend]

/-! ### Numbers -/

/-- Nothing that could belong to a number comes first. -/
def Ends (s : List Char) : Prop :=
  ∀ c ∈ s.head?, c.isDigit = false ∧ c ≠ '.' ∧ c ≠ 'e' ∧ c ≠ 'E'

theorem ends_nil : Ends [] := by
  intro c hc
  cases hc

theorem ends_cons (hc : c.isDigit = false ∧ c ≠ '.' ∧ c ≠ 'e' ∧ c ≠ 'E') : Ends (c :: rest) := by
  intro d hd
  rw [List.head?_cons, Option.mem_some_iff] at hd
  exact hd ▸ hc

theorem takeWhile_of_ends (h : Ends rest) : rest.takeWhile Char.isDigit = [] := by
  cases rest with
  | nil => rfl
  | cons c rest => rw [List.takeWhile_cons_of_neg (by rw [(h c rfl).1]; decide)]

theorem dropWhile_of_ends (h : Ends rest) : rest.dropWhile Char.isDigit = rest := by
  cases rest with
  | nil => rfl
  | cons c rest => rw [List.dropWhile_cons_of_neg (by rw [(h c rfl).1]; decide)]

theorem digits?_append (hne : s ≠ []) (hs : ∀ c ∈ s, c.isDigit = true) (hrest : Ends rest) :
    digits? (s ++ rest) = some (s, rest) := by
  have htake : (s ++ rest).takeWhile Char.isDigit = s := by
    rw [List.takeWhile_append_of_pos hs, takeWhile_of_ends hrest, List.append_nil]
  have hdrop : (s ++ rest).dropWhile Char.isDigit = rest := by
    rw [List.dropWhile_append_of_pos hs, dropWhile_of_ends hrest]
  rw [digits?, htake, hdrop]
  cases s with
  | nil => exact absurd rfl hne
  | cons c s => rfl

theorem isDigit_toDigits (hc : c ∈ Nat.toDigits 10 n) : c.isDigit = true :=
  Nat.isDigit_of_mem_toDigits (by decide) (by decide) hc

theorem exists_digit (n : Nat) : ∃ c tail, Nat.toDigits 10 n = c :: tail ∧ c.isDigit = true := by
  rcases hdigits : Nat.toDigits 10 n with _ | ⟨c, tail⟩
  · exact absurd hdigits Nat.toDigits_ne_nil
  · exact ⟨c, tail, rfl, isDigit_toDigits (hdigits ▸ List.mem_cons_self)⟩

/-- The digits of a number start with a zero only if that is all there is. -/
theorem exists_toDigits (hn : n ≠ 0) : ∃ c tail, Nat.toDigits 10 n = c :: tail ∧ c ≠ '0' := by
  induction n using Nat.strongRecOn with
  | _ n ih =>
    by_cases hsmall : n < 10
    · have hdigit : ∀ m < 10, m ≠ 0 → m.digitChar ≠ '0' := by decide
      exact ⟨n.digitChar, [], Nat.toDigits_of_lt_base hsmall, hdigit n hsmall hn⟩
    · have hbase : 10 ≤ n := Nat.le_of_not_lt hsmall
      rcases ih (n / 10) (by omega) (by omega) with ⟨c, tail, hdigits, hc⟩
      refine ⟨c, tail ++ [(n % 10).digitChar], ?_, hc⟩
      rw [Nat.toDigits_of_base_le (by decide) hbase, hdigits, List.cons_append]

theorem whole?_toDigits (hrest : Ends rest) :
    whole? (Nat.toDigits 10 n ++ rest) = some (Nat.toDigits 10 n, rest) := by
  by_cases hn : n = 0
  · subst hn
    rfl
  rw [whole?]
  · exact digits?_append Nat.toDigits_ne_nil (fun c => isDigit_toDigits) hrest
  · intro tail hzero
    rcases exists_toDigits hn with ⟨c, digits, hdigits, hc⟩
    rw [hdigits, List.cons_append, List.cons.injEq] at hzero
    exact hc hzero.1

theorem fraction?_of_ends (h : Ends rest) : fraction? rest = some (false, rest) := by
  rw [fraction?]
  rintro tail rfl
  exact (h '.' rfl).2.1 rfl

theorem exponent?_of_ends (h : Ends rest) : exponent? rest = some (false, rest) := by
  cases rest with
  | nil => rfl
  | cons c rest =>
    rcases h c rfl with ⟨_, _, he, hE⟩
    exact if_neg (not_or.2 ⟨he, hE⟩)

theorem number?_toDigits (hrest : Ends rest) :
    number? (Nat.toDigits 10 n ++ rest) = some (.natural n, rest) := by
  have hvalue : Nat.ofDigitChars 10 (Nat.toDigits 10 n) 0 = n := Nat.ofDigitChars_ten_toDigits
  unfold number?
  split
  next negative digits hsign =>
    split at hsign
    next tail hminus =>
      -- A sign cannot be there, since a digit comes first.
      rcases exists_digit n with ⟨c, digits, hdigits, hc⟩
      rw [hdigits, List.cons_append, List.cons.injEq] at hminus
      rw [hminus.1] at hc
      exact absurd hc (by decide)
    next =>
      rw [Prod.mk.injEq] at hsign
      simp only [← hsign.1, ← hsign.2, whole?_toDigits hrest, fraction?_of_ends hrest,
        exponent?_of_ends hrest, hvalue, Option.bind_eq_bind, Option.bind_some, Bool.false_eq_true,
        or_self, if_false, Option.pure_def]

/-! ### Containers -/

/-- A character is there that neither is skipped nor closes an array. -/
def Starts (s : List Char) : Prop :=
  ∃ c tail, s = c :: tail ∧ isBlank c = false ∧ c ≠ ']'

theorem Starts.append (h : Starts s) (rest : List Char) : Starts (s ++ rest) := by
  rcases h with ⟨c, tail, rfl, hc⟩
  exact ⟨c, tail ++ rest, rfl, hc⟩

theorem skipBlanks_of_starts (h : Starts s) : skipBlanks s = s := by
  rcases h with ⟨c, tail, rfl, hc, _⟩
  rw [skipBlanks, List.dropWhile_cons_of_neg (by rw [hc]; decide)]

theorem isBlank_of_isDigit (hc : c.isDigit = true) : isBlank c = false := by
  rw [isBlank, decide_eq_false_iff_not]
  rintro (rfl | rfl | rfl | rfl) <;> exact absurd hc (by decide)

theorem starts_toDigits (n : Nat) : Starts (Nat.toDigits 10 n) := by
  rcases exists_digit n with ⟨c, tail, hdigits, hc⟩
  refine ⟨c, tail, hdigits, isBlank_of_isDigit hc, ?_⟩
  rintro rfl
  exact absurd hc (by decide)

theorem starts_render (j : Json) : Starts j.render := by
  cases j with
  | null => exact ⟨_, _, rfl, by decide⟩
  | bool value => cases value <;> exact ⟨_, _, rfl, by decide⟩
  | natural n => exact starts_toDigits n
  | otherNumber => exact ⟨_, _, rfl, by decide⟩
  | string glyphs => exact ⟨_, _, rfl, by decide⟩
  | array items => exact ⟨_, _, rfl, by decide⟩
  | object fields => exact ⟨_, _, rfl, by decide⟩

section

variable {item value : Json} {items : List Json} {name glyphs : List Glyph}
  {fields : List (List Glyph × Json)}

theorem value?_string (h : glyphs? s = some (glyphs, rest)) :
    value? (fuel + 1) ('\x22' :: s) = some (.string glyphs, rest) := by
  show (glyphs? s).map _ = _
  rw [h]
  rfl

theorem value?_array (hs : Starts s) (h : items? fuel s = some (items, rest)) :
    value? (fuel + 1) ('[' :: s) = some (.array items, rest) := by
  have hskip : skipBlanks s = s := skipBlanks_of_starts hs
  have hopen : skipBlanks ('[' :: s) = '[' :: s := rfl
  rcases hs with ⟨c, tail, rfl, _, hc⟩
  simp only [value?, hopen, hskip]
  split
  next hclose => exact absurd (List.cons.inj hclose).1 hc
  next => rw [h, Option.map_some]

theorem value?_object (hs : ∃ tail, s = '\x22' :: tail)
    (h : members? fuel s = some (fields, rest)) :
    value? (fuel + 1) ('\x7b' :: s) = some (.object fields, rest) := by
  rcases hs with ⟨tail, rfl⟩
  show (members? fuel ('\x22' :: tail)).map _ = _
  rw [h]
  rfl

theorem value?_number (hc : c.isDigit = true) (tail : List Char) :
    value? (fuel + 1) (c :: tail) = number? (c :: tail) := by
  have hskip : skipBlanks (c :: tail) = c :: tail := by
    rw [skipBlanks, List.dropWhile_cons_of_neg (by rw [isBlank_of_isDigit hc]; decide)]
  unfold value?
  rw [hskip]
  split
  case h_7 => rfl
  -- Everything else that a value can start with is no digit.
  all_goals
    next hletter =>
      rw [(List.cons.inj hletter).1] at hc
      exact absurd hc (by decide)

theorem items?_last (h : value? fuel s = some (item, ']' :: rest)) :
    items? (fuel + 1) s = some ([item], rest) := by
  rw [items?, h]
  rfl

theorem items?_cons (h : value? fuel s = some (item, ',' :: s'))
    (hs' : items? fuel s' = some (items, rest)) :
    items? (fuel + 1) s = some (item :: items, rest) := by
  rw [items?, h]
  show (items? fuel s').bind _ = _
  rw [hs']
  rfl

theorem members?_last (hname : glyphs? s = some (name, ':' :: s'))
    (h : value? fuel s' = some (value, '\x7d' :: rest)) :
    members? (fuel + 1) ('\x22' :: s) = some ([(name, value)], rest) := by
  show (glyphs? s).bind _ = _
  rw [hname]
  show (value? fuel s').bind _ = _
  rw [h]
  rfl

theorem members?_cons (hname : glyphs? s = some (name, ':' :: s'))
    (h : value? fuel s' = some (value, ',' :: s'')) (hs : members? fuel s'' = some (fields, rest)) :
    members? (fuel + 1) ('\x22' :: s) = some ((name, value) :: fields, rest) := by
  show (glyphs? s).bind _ = _
  rw [hname]
  show (value? fuel s').bind _ = _
  rw [h]
  show (members? fuel s'').bind _ = _
  rw [hs]
  rfl

end

theorem exists_fuel (j : Json) (hfuel : 2 * j.render.length ≤ fuel) : ∃ m, fuel = m + 1 := by
  rcases starts_render j with ⟨c, tail, hrender, _⟩
  rw [hrender, List.length_cons] at hfuel
  exact ⟨fuel - 1, by omega⟩

/-- A value is read back in front of anything that can follow it. -/
def ReadsBack (j : Json) : Prop :=
  ∀ fuel rest, 2 * j.render.length ≤ fuel → Ends rest →
    value? fuel (j.render ++ rest) = some (j, rest)

theorem renderString_append (glyphs : List Glyph) (rest : List Char) :
    renderString glyphs ++ rest = '\x22' :: (glyphs.flatMap renderGlyph ++ '\x22' :: rest) := by
  rw [renderString, List.cons_append, List.cons_append, List.append_assoc, List.singleton_append]

theorem renderItems_cons_cons (item next : Json) (items : List Json) :
    renderItems (item :: next :: items) = item.render ++ ',' :: renderItems (next :: items) :=
  rfl

theorem renderFields_cons_cons (name : List Glyph) (value : Json) (next : List Glyph × Json)
    (fields : List (List Glyph × Json)) :
    renderFields ((name, value) :: next :: fields) =
      renderString name ++ ':' :: value.render ++ ',' :: renderFields (next :: fields) :=
  rfl

theorem render_array_append (items : List Json) (rest : List Char) :
    (array items).render ++ rest = '[' :: (renderItems items ++ ']' :: rest) := by
  rw [render, List.cons_append, List.cons_append, List.append_assoc, List.singleton_append]

theorem render_object_append (fields : List (List Glyph × Json)) (rest : List Char) :
    (object fields).render ++ rest = '\x7b' :: (renderFields fields ++ '\x7d' :: rest) := by
  rw [render, List.cons_append, List.cons_append, List.append_assoc, List.singleton_append]

theorem starts_renderItems {items : List Json} (hne : items ≠ []) : Starts (renderItems items) := by
  rcases items with _ | ⟨item, _ | ⟨next, items⟩⟩
  · exact absurd rfl hne
  · exact starts_render item
  · exact (starts_render item).append _

theorem starts_renderFields {fields : List (List Glyph × Json)} (hne : fields ≠ [])
    (rest : List Char) : ∃ s, renderFields fields ++ rest = '\x22' :: s := by
  rcases fields with _ | ⟨⟨name, value⟩, _ | ⟨next, fields⟩⟩
  · exact absurd rfl hne
  · exact ⟨_, rfl⟩
  · exact ⟨_, rfl⟩

theorem items?_renderItems {items : List Json} (hne : items ≠ [])
    (hitems : ∀ item ∈ items, item.ReadsBack) (hfuel : 2 * (renderItems items).length < fuel)
    (rest : List Char) :
    items? fuel (renderItems items ++ ']' :: rest) = some (items, rest) := by
  induction items generalizing fuel with
  | nil => exact absurd rfl hne
  | cons item items ih =>
    rcases fuel with _ | fuel
    · exact absurd hfuel (Nat.not_lt_zero _)
    have hitem := hitems item List.mem_cons_self
    rcases items with _ | ⟨next, items⟩
    · exact items?_last (hitem fuel _ (Nat.le_of_lt_succ hfuel) (ends_cons (by decide)))
    · -- The separator behind the item pays for the step to the next one.
      rw [renderItems_cons_cons] at hfuel ⊢
      rw [List.length_append, List.length_cons] at hfuel
      rw [List.append_assoc, List.cons_append]
      refine items?_cons (hitem fuel _ (by omega) (ends_cons (by decide))) ?_
      exact ih (List.cons_ne_nil _ _) (fun i hi => hitems i (List.mem_cons_of_mem item hi)) (by omega)

theorem members?_renderFields {fields : List (List Glyph × Json)} (hne : fields ≠ [])
    (hnames : ∀ field ∈ fields, ∃ name : String, field.1 = Glyph.ofString name)
    (hvalues : ∀ field ∈ fields, field.2.ReadsBack)
    (hfuel : 2 * (renderFields fields).length < fuel) (rest : List Char) :
    members? fuel (renderFields fields ++ '\x7d' :: rest) = some (fields, rest) := by
  induction fields generalizing fuel with
  | nil => exact absurd rfl hne
  | cons field fields ih =>
    rcases fuel with _ | fuel
    · exact absurd hfuel (Nat.not_lt_zero _)
    rcases field with ⟨glyphs, value⟩
    rcases hnames _ List.mem_cons_self with ⟨name, hname⟩
    have hvalue : value.ReadsBack := hvalues _ List.mem_cons_self
    have hread (s : List Char) :
        glyphs? (glyphs.flatMap renderGlyph ++ '\x22' :: s) = some (glyphs, s) := by
      rw [show glyphs = name.toList.map Glyph.char from hname, glyphs?_renderGlyphs]
    rcases fields with _ | ⟨next, fields⟩
    · simp only [renderFields, List.length_append, List.length_cons] at hfuel
      simp only [renderFields, List.append_assoc, List.cons_append, renderString_append]
      exact members?_last (hread _) (hvalue fuel _ (by omega) (ends_cons (by decide)))
    · rw [renderFields_cons_cons] at hfuel ⊢
      simp only [List.length_append, List.length_cons] at hfuel
      simp only [List.append_assoc, List.cons_append, renderString_append]
      refine members?_cons (hread _) (hvalue fuel _ (by omega) (ends_cons (by decide))) ?_
      exact ih (List.cons_ne_nil _ _) (fun f hf => hnames f (List.mem_cons_of_mem _ hf))
        (fun f hf => hvalues f (List.mem_cons_of_mem _ hf)) (by omega)

/-! ### Values -/

/-- Every string in a value, names included, is text. -/
inductive IsTextual : Json → Prop
  | null : IsTextual .null
  | bool (value : Bool) : IsTextual (.bool value)
  | natural (value : Nat) : IsTextual (.natural value)
  | otherNumber : IsTextual .otherNumber
  | text (t : String) : IsTextual (.text t)
  | array {items : List Json} (hitems : ∀ item ∈ items, IsTextual item) : IsTextual (.array items)
  | record {fields : List (String × Json)} (hvalues : ∀ field ∈ fields, IsTextual field.2) :
    IsTextual (.record fields)

theorem readsBack_text (t : String) : (text t).ReadsBack := by
  intro fuel rest hfuel _
  rcases exists_fuel _ hfuel with ⟨m, rfl⟩
  rw [text, render, renderString_append]
  exact value?_string (glyphs?_renderGlyphs t.toList rest)

theorem readsBack_natural (n : Nat) : (natural n).ReadsBack := by
  intro fuel rest hfuel hrest
  rcases exists_fuel _ hfuel with ⟨m, rfl⟩
  rcases exists_digit n with ⟨c, tail, hdigits, hc⟩
  have hnumber : number? (Nat.toDigits 10 n ++ rest) = some (.natural n, rest) :=
    number?_toDigits hrest
  rw [render]
  rw [hdigits, List.cons_append] at hnumber ⊢
  rw [value?_number hc, hnumber]

theorem readsBack_otherNumber : otherNumber.ReadsBack := by
  intro fuel rest hfuel hrest
  rcases exists_fuel _ hfuel with ⟨m, rfl⟩
  show number? ('-' :: '0' :: rest) = _
  simp only [number?, whole?, fraction?_of_ends hrest, exponent?_of_ends hrest,
    Option.bind_eq_bind, Option.bind_some, true_or, if_true, Option.pure_def]

theorem readsBack_array {items : List Json} (hitems : ∀ item ∈ items, item.ReadsBack) :
    (array items).ReadsBack := by
  intro fuel rest hfuel _
  rcases exists_fuel _ hfuel with ⟨m, rfl⟩
  rcases items with _ | ⟨item, items⟩
  · rfl
  · have hne := List.cons_ne_nil item items
    simp only [render, List.length_append, List.length_cons] at hfuel
    rw [render_array_append]
    exact value?_array ((starts_renderItems hne).append _)
      (items?_renderItems hne hitems (by omega) rest)

theorem readsBack_object {fields : List (List Glyph × Json)}
    (hnames : ∀ field ∈ fields, ∃ name : String, field.1 = Glyph.ofString name)
    (hvalues : ∀ field ∈ fields, field.2.ReadsBack) : (object fields).ReadsBack := by
  intro fuel rest hfuel _
  rcases exists_fuel _ hfuel with ⟨m, rfl⟩
  rcases fields with _ | ⟨field, fields⟩
  · rfl
  · have hne := List.cons_ne_nil field fields
    simp only [render, List.length_append, List.length_cons] at hfuel
    rw [render_object_append]
    exact value?_object (starts_renderFields hne _)
      (members?_renderFields hne hnames hvalues (by omega) rest)

theorem IsTextual.readsBack {j : Json} (h : j.IsTextual) : j.ReadsBack := by
  induction h with
  | null =>
    intro fuel rest hfuel _
    rcases exists_fuel _ hfuel with ⟨m, rfl⟩
    rfl
  | bool value =>
    intro fuel rest hfuel _
    rcases exists_fuel _ hfuel with ⟨m, rfl⟩
    cases value <;> rfl
  | natural n => exact readsBack_natural n
  | otherNumber => exact readsBack_otherNumber
  | text t => exact readsBack_text t
  | array _ ih => exact readsBack_array ih
  | record _ ih =>
    refine readsBack_object ?_ ?_
    · intro field hfield
      rcases List.mem_map.1 hfield with ⟨⟨name, value⟩, _, rfl⟩
      exact ⟨name, rfl⟩
    · intro field hfield
      rcases List.mem_map.1 hfield with ⟨⟨name, value⟩, hmem, rfl⟩
      exact ih _ hmem

/-- A value whose strings are text is read back from what is written for it. -/
theorem ofText?_toText {j : Json} (h : j.IsTextual) : ofText? j.toText = some j := by
  have hread := h.readsBack (2 * j.render.length + 1) [] (by omega) ends_nil
  rw [List.append_nil] at hread
  simp only [ofText?, toText, String.toList_ofList, hread]
  rfl

end Json

end ChainCheckpoints
