import Mathlib
import MachineActuator.Json.Parse
import MachineActuator.Json.Render
import MachineActuator.Proofs.Json.Merge
import MachineActuator.Proofs.Json.Number

/-! # Documents read back

What is read from a document is `Readable` (`readable_of_ofBytes?`): its fields are in key order,
its numbers fit, and it is nested no deeper than the reader goes.  What is readable and is written
is read again as what was sent (`ofBytes?_render`), so a document may be read, changed and written
any number of times as long as it stays readable. -/

namespace MachineActuator

namespace Json

open Number (Ends ends_nil)

/-! ### Strings -/

theorem hexQuad?_hexDigit :
    ∀ n < 32, hexQuad? '0' '0' (hexDigit (n / 16)) (hexDigit (n % 16)) = some n := by decide

theorem readString_plain {c : Char} (hquote : c ≠ '"') (hslash : c ≠ '\\') (hcontrol : ¬ c < ' ')
    (seen rest : List Char) : readString seen (c :: rest) = readString (c :: seen) rest := by
  rw [readString.eq_def]
  split
  · next h => exact absurd (List.cons.inj h).1 hquote
  · next h => exact absurd (List.cons.inj h).1 hslash
  · next h => exact absurd (List.cons.inj h).1 hslash
  · next h =>
    obtain ⟨rfl, rfl⟩ := List.cons.inj h
    rw [if_neg hcontrol]
  · next h => exact nomatch h

/-- Each character is read from the form it is written in. -/
theorem readString_escape (c : Char) (seen rest : List Char) :
    readString seen (escape c ++ rest) = readString (c :: seen) rest := by
  unfold escape
  split_ifs with hquote hslash hback hfeed hline hreturn htab hcontrol
  · subst hquote; rfl
  · subst hslash; rfl
  · subst hback; rfl
  · subst hfeed; rfl
  · subst hline; rfl
  · subst hreturn; rfl
  · subst htab; rfl
  · have hlt : c.toNat < 32 := by
      simpa [Char.lt_def, UInt32.lt_iff_toNat_lt] using hcontrol
    have hquad := hexQuad?_hexDigit c.toNat hlt
    show readString seen ('\\' :: 'u' :: '0' :: '0' :: hexDigit (c.toNat / 16) ::
      hexDigit (c.toNat % 16) :: rest) = _
    rw [readString, hquad]
    simp only [Option.bind_eq_bind, Option.bind_some]
    rw [if_pos (.inl (by omega)), Char.ofNat_toNat]
  · exact readString_plain hquote hslash hcontrol seen rest

theorem readString_flatMap (cs seen rest : List Char) :
    readString seen (cs.flatMap escape ++ '"' :: rest) =
      some (String.ofList (seen.reverse ++ cs), rest) := by
  induction cs generalizing seen with
  | nil =>
    rw [List.append_nil]
    rfl
  | cons c cs ih =>
    rw [List.flatMap_cons, List.append_assoc, readString_escape, ih, List.reverse_cons,
      List.append_assoc, List.singleton_append]

/-- A quoted text as characters: the mark and what `readString` reads. -/
theorem toList_quote_append (s : String) (rest : List Char) :
    (quote s).toList ++ rest = '"' :: (s.toList.flatMap escape ++ '"' :: rest) := by
  unfold quote
  rw [String.toList_ofList, List.cons_append, List.append_assoc, List.singleton_append]

theorem readString_quote (s : String) (rest : List Char) :
    readString [] (s.toList.flatMap escape ++ '"' :: rest) = some (s, rest) := by
  rw [readString_flatMap, List.reverse_nil, List.nil_append, String.ofList_toList]

/-! ### Blanks -/

theorem skipBlanks_cons {c : Char} (h : c ≠ ' ' ∧ c ≠ '\n' ∧ c ≠ '\t' ∧ c ≠ '\r')
    (rest : List Char) : skipBlanks (c :: rest) = c :: rest := by
  unfold skipBlanks
  rw [if_neg]
  rintro (rfl | rfl | rfl | rfl)
  · exact h.1 rfl
  · exact h.2.1 rfl
  · exact h.2.2.1 rfl
  · exact h.2.2.2 rfl

/-! ### The text of lists and objects -/

theorem toList_render_arr (x : Json) (xs : List Json) :
    (render (.arr (x :: xs))).toList =
      '[' :: (x.render.toList ++ (renderItems xs).toList ++ [']']) := by
  rw [render]
  simp

theorem toList_renderItems_cons (x : Json) (xs : List Json) :
    (renderItems (x :: xs)).toList = ',' :: (x.render.toList ++ (renderItems xs).toList) := by
  rw [renderItems]
  simp

theorem toList_render_obj (k : String) (x : Json) (xs : List (String × Json)) :
    (render (.obj ((k, x) :: xs))).toList =
      '\x7b' :: ((quote k).toList ++ ':' :: (x.render.toList ++ (renderFields xs).toList) ++
        ['\x7d']) := by
  rw [render]
  simp

theorem toList_renderFields_cons (k : String) (x : Json) (xs : List (String × Json)) :
    (renderFields ((k, x) :: xs)).toList =
      ',' :: ((quote k).toList ++ ':' :: (x.render.toList ++ (renderFields xs).toList)) := by
  rw [renderFields]
  simp

/-! ### What can be read again -/

/-- The value can be written and read again with that many levels of nesting. -/
inductive Readable : ℕ → Json → Prop
  | null {depth : ℕ} : Readable depth .null
  | bool {depth : ℕ} (b : Bool) : Readable depth (.bool b)
  | num {depth : ℕ} {n : Number} (h : n.Fits) : Readable depth (.num n)
  | str {depth : ℕ} (s : String) : Readable depth (.str s)
  | arr {depth : ℕ} {items : List Json} (h : ∀ x ∈ items, Readable depth x) :
    Readable (depth + 1) (.arr items)
  | obj {depth : ℕ} {fields : List (String × Json)} (hsorted : Entries.Sorted fields)
    (h : ∀ e ∈ fields, Readable depth e.2) : Readable (depth + 1) (.obj fields)

namespace Readable

variable {depth : ℕ} {fields : List (String × Json)}

theorem of_mem {items : List Json} (h : Readable (depth + 1) (.arr items)) {x : Json}
    (hx : x ∈ items) : Readable depth x := by
  cases h with
  | arr h => exact h x hx

theorem sorted (h : Readable (depth + 1) (.obj fields)) : Entries.Sorted fields := by
  cases h with
  | obj hsorted _ => exact hsorted

theorem of_find? (h : Readable (depth + 1) (.obj fields)) {key : String} {v : Json}
    (hv : Entries.find? key fields = some v) : Readable depth v := by
  cases h with
  | obj _ h => exact h (key, v) (Entries.mem_of_find? hv)

theorem of_getD (h : Readable (depth + 1) (.obj fields)) {key : String} {absent v : Json}
    (habsent : Readable depth absent) (hv : (Entries.find? key fields).getD absent = v) :
    Readable depth v := by
  subst hv
  cases hfound : Entries.find? key fields with
  | none => exact habsent
  | some v => exact h.of_find? hfound

/-- A field may be put into an object whatever was there before. -/
theorem insert (h : Readable (depth + 1) (.obj fields)) {v : Json} (hv : Readable depth v)
    (key : String) : Readable (depth + 1) (.obj (Entries.insert key v fields)) := by
  cases h with
  | obj hsorted h =>
    exact .obj (Entries.sorted_insert key v hsorted) fun e he =>
      (Entries.mem_insert he).elim (fun heq => heq ▸ hv) (h e)

end Readable

theorem find?_sentFields (key : String) (fields : List (String × Json)) :
    Entries.find? key (sentFields fields) = (Entries.find? key fields).map sent := by
  induction fields with
  | nil => rfl
  | cons e es ih =>
    obtain ⟨k, x⟩ := e
    rw [sentFields, Entries.find?_cons, Entries.find?_cons, ih]
    split_ifs <;> rfl

theorem sentFields_insert (key : String) (v : Json) (fields : List (String × Json)) :
    sentFields (Entries.insert key v fields) = Entries.insert key v.sent (sentFields fields) := by
  induction fields with
  | nil => rfl
  | cons e es ih =>
    obtain ⟨k, x⟩ := e
    change sentFields (if key < k then _ else if key = k then _ else _) =
      if key < k then _ else if key = k then _ else _
    split_ifs
    · rfl
    · rfl
    · exact congrArg ((k, x.sent) :: ·) ih

/-- A mark that a value begins with is no blank and closes no list. -/
def Opens (c : Char) : Prop :=
  (c ≠ ' ' ∧ c ≠ '\n' ∧ c ≠ '\t' ∧ c ≠ '\r') ∧ c ≠ ']'

instance (c : Char) : Decidable (Opens c) := inferInstanceAs (Decidable (_ ∧ _))

theorem opens_of_number {c : Char} (h : c = '-' ∨ c.isDigit = true) : Opens c := by
  obtain rfl | h := h
  · decide
  · unfold Opens
    refine ⟨⟨?_, ?_, ?_, ?_⟩, ?_⟩ <;> (rintro rfl; exact absurd h (by decide))

theorem readValue_of_read {cs rest : List Char} {n : Number}
    (h : Number.read cs = some (n, rest)) (fuel depth : ℕ) :
    readValue (fuel + 1) depth cs = some (.num n, rest) := by
  obtain ⟨c, tail, rfl, hc⟩ := Number.exists_cons_of_read h
  have hother : ∀ d : Char, d ≠ '-' → d.isDigit = false → c ≠ d := by
    rintro d hd hdigit rfl
    obtain hc | hc := hc
    · exact hd hc
    · exact absurd (hdigit.symm.trans hc) Bool.false_ne_true
  unfold readValue
  rw [skipBlanks_cons (opens_of_number hc).1]
  split
  · next hcons => exact absurd (List.cons.inj hcons).1 (hother _ (by decide) (by decide))
  · next hcons => exact absurd (List.cons.inj hcons).1 (hother _ (by decide) (by decide))
  · next hcons => exact absurd (List.cons.inj hcons).1 (hother _ (by decide) (by decide))
  · next hcons => exact absurd (List.cons.inj hcons).1 (hother _ (by decide) (by decide))
  · next hcons => exact absurd (List.cons.inj hcons).1 (hother _ (by decide) (by decide))
  · next hcons => exact absurd (List.cons.inj hcons).1 (hother _ (by decide) (by decide))
  · rw [h]
    rfl

theorem Readable.exists_cons {depth : ℕ} {v : Json} (h : Readable depth v) :
    ∃ c tail, v.render.toList = c :: tail ∧ Opens c := by
  cases h with
  | null => exact ⟨'n', _, rfl, by decide⟩
  | bool b => cases b with
    | false => exact ⟨'f', _, rfl, by decide⟩
    | true => exact ⟨'t', _, rfl, by decide⟩
  | num h =>
    have hread := Number.read_render h ends_nil
    obtain ⟨c, tail, hcons, hc⟩ := Number.exists_cons_of_read hread
    rw [List.append_nil] at hcons
    exact ⟨c, tail, hcons, opens_of_number hc⟩
  | str s => exact ⟨'"', _, String.toList_ofList, by decide⟩
  | @arr depth items h =>
    cases items with
    | nil => exact ⟨'[', [']'], rfl, by decide⟩
    | cons x xs => exact ⟨'[', _, toList_render_arr x xs, by decide⟩
  | @obj depth fields hsorted h =>
    cases fields with
    | nil => exact ⟨'\x7b', ['\x7d'], rfl, by decide⟩
    | cons e es => exact ⟨'\x7b', _, toList_render_obj e.1 e.2 es, by decide⟩

/-! ### Reading what was written -/

/-- The value is read from its own text.  The fuel that reading takes is bounded by the length of
the text, since every two levels of recursion take at least one mark off its front. -/
def Returns (depth : ℕ) (v : Json) : Prop :=
  ∀ fuel rest, 2 * v.render.toList.length ≤ fuel → Ends rest →
    readValue fuel depth (v.render.toList ++ rest) = some (v.sent, rest)

theorem ends_of_mark {c : Char} (h : c = ',' ∨ c = ']' ∨ c = '\x7d') (rest : List Char) :
    Ends (c :: rest) :=
  fun _ _ hcons => (List.cons.inj hcons).1 ▸ h

theorem ends_renderItems (xs : List Json) (rest : List Char) :
    Ends ((renderItems xs).toList ++ ']' :: rest) := by
  cases xs with
  | nil => exact ends_of_mark (.inr (.inl rfl)) rest
  | cons x xs =>
    rw [toList_renderItems_cons]
    exact ends_of_mark (.inl rfl) _

theorem ends_renderFields (xs : List (String × Json)) (rest : List Char) :
    Ends ((renderFields xs).toList ++ '\x7d' :: rest) := by
  cases xs with
  | nil => exact ends_of_mark (.inr (.inr rfl)) rest
  | cons x xs =>
    rw [toList_renderFields_cons]
    exact ends_of_mark (.inl rfl) _

theorem readItems_render {depth : ℕ} {x : Json} {xs : List Json}
    (h : ∀ y ∈ x :: xs, Returns depth y) (seen : List Json) {fuel : ℕ} (rest : List Char)
    (hfuel : 2 * (x.render.toList ++ (renderItems xs).toList).length < fuel) :
    readItems fuel depth seen (x.render.toList ++ (renderItems xs).toList ++ ']' :: rest) =
      some (.arr (seen.reverse ++ sentItems (x :: xs)), rest) := by
  induction xs generalizing x seen fuel with
  | nil =>
    obtain ⟨fuel, rfl⟩ := Nat.exists_eq_succ_of_ne_zero (Nat.ne_zero_of_lt hfuel)
    rw [List.length_append] at hfuel
    rw [List.append_assoc]
    unfold readItems
    rw [h x List.mem_cons_self fuel _ (by omega) (ends_renderItems [] rest)]
    show some (Json.arr (x.sent :: seen).reverse, rest) = _
    rw [List.reverse_cons]
    rfl
  | cons y ys ih =>
    obtain ⟨fuel, rfl⟩ := Nat.exists_eq_succ_of_ne_zero (Nat.ne_zero_of_lt hfuel)
    rw [List.length_append, toList_renderItems_cons, List.length_cons] at hfuel
    rw [List.append_assoc]
    unfold readItems
    rw [h x List.mem_cons_self fuel _ (by omega) (ends_renderItems (y :: ys) rest),
      toList_renderItems_cons, List.cons_append]
    have hys := ih (x := y) (fun z hz => h z (List.mem_cons_of_mem _ hz)) (x.sent :: seen)
      (show _ < fuel by omega)
    show readItems fuel depth (x.sent :: seen) _ = _
    rw [hys, List.reverse_cons, List.append_assoc]
    rfl

theorem insert_eq_append {k : String} {v : Json} {seen : List (String × Json)} {keys : List String}
    (h : (seen.map Prod.fst ++ k :: keys).Pairwise (· < ·)) :
    Entries.insert k v seen = seen ++ [(k, v)] := by
  induction seen with
  | nil => rfl
  | cons e es ih =>
    obtain ⟨l, w⟩ := e
    obtain ⟨hl, hes⟩ := List.pairwise_cons.mp h
    have hlt : l < k := hl k (List.mem_append_right _ List.mem_cons_self)
    unfold Entries.insert
    rw [if_neg (String.lt_asymm hlt),
      if_neg (fun heq : k = l => String.lt_irrefl l (heq ▸ hlt)), ih hes]
    rfl

section Field

variable {fuel depth : ℕ} {seen : List (String × Json)} {k : String} {v : Json}
  {cs rest : List Char}

theorem skipBlanks_colon (rest : List Char) : skipBlanks (':' :: rest) = ':' :: rest :=
  skipBlanks_cons (by decide) rest

/-- A field behind which a comma follows is not the last. -/
theorem readFields_comma (h : readValue fuel depth cs = some (v, ',' :: rest)) :
    readFields (fuel + 1) depth seen ((quote k).toList ++ ':' :: cs) =
      readFields fuel depth (Entries.insert k v seen) rest := by
  have hkey := readString_quote k (':' :: cs)
  have hcomma : skipBlanks (',' :: rest) = ',' :: rest := skipBlanks_cons (by decide) rest
  rw [toList_quote_append, readFields, skipBlanks_cons (by decide)]
  simp only [hkey, skipBlanks_colon, h, hcomma]

/-- A field behind which the brace is closed is the last. -/
theorem readFields_brace (h : readValue fuel depth cs = some (v, '\x7d' :: rest)) :
    readFields (fuel + 1) depth seen ((quote k).toList ++ ':' :: cs) =
      some (.obj (Entries.insert k v seen), rest) := by
  have hkey := readString_quote k (':' :: cs)
  have hbrace : skipBlanks ('\x7d' :: rest) = '\x7d' :: rest := skipBlanks_cons (by decide) rest
  rw [toList_quote_append, readFields, skipBlanks_cons (by decide)]
  simp only [hkey, skipBlanks_colon, h, hbrace]

end Field

theorem readFields_render {depth : ℕ} {k : String} {x : Json} {xs : List (String × Json)}
    (h : ∀ e ∈ (k, x) :: xs, Returns depth e.2) (seen : List (String × Json)) {fuel : ℕ}
    (rest : List Char)
    (hkeys : (seen.map Prod.fst ++ k :: xs.map Prod.fst).Pairwise (· < ·))
    (hfuel : 2 * ((quote k).toList ++ ':' :: (x.render.toList ++ (renderFields xs).toList)).length <
      fuel) :
    readFields fuel depth seen ((quote k).toList ++
        ':' :: (x.render.toList ++ (renderFields xs).toList) ++ '\x7d' :: rest) =
      some (.obj (seen ++ sentFields ((k, x) :: xs)), rest) := by
  induction xs generalizing k x seen fuel with
  | nil =>
    obtain ⟨fuel, rfl⟩ := Nat.exists_eq_succ_of_ne_zero (Nat.ne_zero_of_lt hfuel)
    rw [List.length_append, List.length_cons, List.length_append] at hfuel
    have hx := h _ List.mem_cons_self fuel ('\x7d' :: rest)
      (show 2 * x.render.toList.length ≤ fuel by omega) (ends_renderFields [] rest)
    rw [List.append_assoc, List.cons_append, List.append_assoc]
    exact (readFields_brace hx).trans (by rw [insert_eq_append hkeys]; rfl)
  | cons e es ih =>
    obtain ⟨l, y⟩ := e
    obtain ⟨fuel, rfl⟩ := Nat.exists_eq_succ_of_ne_zero (Nat.ne_zero_of_lt hfuel)
    have hes := ih (k := l) (x := y) (fun e he => h e (List.mem_cons_of_mem _ he))
      (seen ++ [(k, x.sent)]) (by simpa using hkeys) (show _ < fuel by
        rw [toList_renderFields_cons] at hfuel
        simp only [List.length_append, List.length_cons] at hfuel ⊢
        omega)
    rw [List.length_append, List.length_cons, List.length_append] at hfuel
    have hx := h _ List.mem_cons_self fuel ((renderFields ((l, y) :: es)).toList ++ '\x7d' :: rest)
      (show 2 * x.render.toList.length ≤ fuel by omega) (ends_renderFields ((l, y) :: es) rest)
    rw [List.append_assoc, List.cons_append, List.append_assoc]
    rw [toList_renderFields_cons, List.cons_append] at hx ⊢
    rw [readFields_comma hx, insert_eq_append hkeys, hes, List.append_assoc]
    rfl

theorem readValue_bracket {c : Char} (hblank : c ≠ ' ' ∧ c ≠ '\n' ∧ c ≠ '\t' ∧ c ≠ '\r')
    (hclose : c ≠ ']') (fuel depth : ℕ) (tail : List Char) :
    readValue (fuel + 1) (depth + 1) ('[' :: c :: tail) = readItems fuel depth [] (c :: tail) := by
  rw [readValue, skipBlanks_cons (by decide)]
  simp only [skipBlanks_cons hblank]
  split
  · next hcons => exact absurd (List.cons.inj hcons).1 hclose
  · rfl

theorem readValue_brace (fuel depth : ℕ) (tail : List Char) :
    readValue (fuel + 1) (depth + 1) ('\x7b' :: '"' :: tail) =
      readFields fuel depth [] ('"' :: tail) := by
  rw [readValue, skipBlanks_cons (by decide)]
  simp only [skipBlanks_cons (by decide : '"' ≠ ' ' ∧ '"' ≠ '\n' ∧ '"' ≠ '\t' ∧ '"' ≠ '\r')]
  rfl

theorem Readable.returns_of_succ {depth : ℕ} {v : Json} (h : Readable depth v)
    (hstep : ∀ fuel rest, 2 * v.render.toList.length ≤ fuel + 1 → Ends rest →
      readValue (fuel + 1) depth (v.render.toList ++ rest) = some (v.sent, rest)) :
    Returns depth v := by
  intro fuel rest hfuel hrest
  obtain ⟨c, tail, hcons, -⟩ := h.exists_cons
  have hpos : fuel ≠ 0 := by
    rw [hcons, List.length_cons] at hfuel
    omega
  obtain ⟨fuel, rfl⟩ := Nat.exists_eq_succ_of_ne_zero hpos
  exact hstep fuel rest hfuel hrest

theorem Readable.returns {depth : ℕ} {v : Json} (h : Readable depth v) : Returns depth v := by
  induction h with
  | null => exact Readable.null.returns_of_succ fun fuel rest hfuel hrest => rfl
  | bool b =>
    refine (Readable.bool b).returns_of_succ fun fuel rest hfuel hrest => ?_
    cases b <;> rfl
  | num h =>
    refine (Readable.num h).returns_of_succ fun fuel rest hfuel hrest => ?_
    exact readValue_of_read (Number.read_render h hrest) fuel _
  | str s =>
    refine (Readable.str s).returns_of_succ fun fuel rest hfuel hrest => ?_
    have hstring := readString_quote s rest
    show readValue (fuel + 1) _ ((quote s).toList ++ rest) = _
    rw [toList_quote_append, readValue, skipBlanks_cons (by decide)]
    simp only [hstring]
    rfl
  | @arr depth items h ih =>
    refine (Readable.arr h).returns_of_succ fun fuel rest hfuel hrest => ?_
    cases items with
    | nil => rfl
    | cons x xs =>
      rw [toList_render_arr] at hfuel ⊢
      have hitems := readItems_render ih [] rest (show _ < fuel by
        simp only [List.length_append, List.length_cons, List.length_nil] at hfuel ⊢
        omega)
      obtain ⟨c, tail, hcons, hblank, hclose⟩ := (h x List.mem_cons_self).exists_cons
      rw [hcons, List.cons_append, List.cons_append] at hitems
      have htext : '[' :: (x.render.toList ++ (renderItems xs).toList ++ [']']) ++ rest =
          '[' :: c :: (tail ++ (renderItems xs).toList ++ ']' :: rest) := by simp [hcons]
      rw [htext, readValue_bracket hblank hclose]
      exact hitems
  | @obj depth fields hsorted h ih =>
    refine (Readable.obj hsorted h).returns_of_succ fun fuel rest hfuel hrest => ?_
    cases fields with
    | nil => rfl
    | cons e es =>
      obtain ⟨k, x⟩ := e
      rw [toList_render_obj] at hfuel ⊢
      have hfields := readFields_render ih [] rest (List.pairwise_map.mpr hsorted)
        (show _ < fuel by
          simp only [List.length_append, List.length_cons, List.length_nil] at hfuel ⊢
          omega)
      have htext : '\x7b' :: ((quote k).toList ++ ':' :: (x.render.toList ++
            (renderFields es).toList) ++ ['\x7d']) ++ rest =
          '\x7b' :: ((quote k).toList ++ (':' :: (x.render.toList ++ (renderFields es).toList) ++
            '\x7d' :: rest)) := by simp
      rw [List.append_assoc, toList_quote_append] at hfields
      rw [htext, toList_quote_append, readValue_brace]
      exact hfields

theorem parse?_render {v : Json} (h : Readable maxDepth v) : parse? v.render = some v.sent := by
  have hread := h.returns (2 * v.render.toList.length + 2) [] (by omega) ends_nil
  rw [List.append_nil] at hread
  unfold parse?
  dsimp only
  rw [hread]
  rfl

/-- A document that is readable and is written comes through as `sent` says. -/
theorem ofBytes?_render {v : Json} (h : Readable maxDepth v) :
    ofBytes? (utf8 v.render) = some v.sent := by
  have hvalid : (utf8 v.render).IsValidUTF8 := v.render.isValidUTF8
  unfold ofBytes? String.fromUTF8?
  rw [dif_pos hvalid]
  exact parse?_render h

/-! ### What is read -/

theorem readable_of_readItems {fuel : ℕ}
    (hvalue : ∀ {depth cs v rest}, readValue fuel depth cs = some (v, rest) → Readable depth v)
    (hitems : ∀ {depth seen cs v rest}, (∀ x ∈ seen, Readable depth x) →
      readItems fuel depth seen cs = some (v, rest) → Readable (depth + 1) v)
    {depth : ℕ} {seen : List Json} {cs rest : List Char} {v : Json}
    (hseen : ∀ x ∈ seen, Readable depth x)
    (h : readItems (fuel + 1) depth seen cs = some (v, rest)) : Readable (depth + 1) v := by
  rw [readItems] at h
  cases hx : readValue fuel depth cs with
  | none =>
    rw [hx] at h
    exact nomatch h
  | some r =>
    obtain ⟨x, tail⟩ := r
    have hall : ∀ y ∈ x :: seen, Readable depth y := List.forall_mem_cons.mpr ⟨hvalue hx, hseen⟩
    rw [hx] at h
    dsimp only at h
    split at h
    · exact hitems hall h
    · obtain ⟨rfl, -⟩ := Prod.mk.inj (Option.some.inj h)
      exact .arr fun y hy => hall y (List.mem_reverse.mp hy)
    · exact nomatch h

theorem readable_of_readFields {fuel : ℕ}
    (hvalue : ∀ {depth cs v rest}, readValue fuel depth cs = some (v, rest) → Readable depth v)
    (hfields : ∀ {depth seen cs v rest}, Entries.Sorted seen → (∀ e ∈ seen, Readable depth e.2) →
      readFields fuel depth seen cs = some (v, rest) → Readable (depth + 1) v)
    {depth : ℕ} {seen : List (String × Json)} {cs rest : List Char} {v : Json}
    (hsorted : Entries.Sorted seen) (hseen : ∀ e ∈ seen, Readable depth e.2)
    (h : readFields (fuel + 1) depth seen cs = some (v, rest)) : Readable (depth + 1) v := by
  rw [readFields] at h
  split at h
  · split at h
    · exact nomatch h
    · next key tail hkey =>
      split at h
      · split at h
        · exact nomatch h
        · next x tail hx =>
          have hall : ∀ e ∈ Entries.insert key x seen, Readable depth e.2 := fun e he =>
            (Entries.mem_insert he).elim (fun heq => heq ▸ hvalue hx) (hseen e)
          split at h
          · exact hfields (Entries.sorted_insert key x hsorted) hall h
          · obtain ⟨rfl, -⟩ := Prod.mk.inj (Option.some.inj h)
            exact .obj (Entries.sorted_insert key x hsorted) hall
          · exact nomatch h
      · exact nomatch h
  · exact nomatch h

theorem readable_of_readValue {fuel : ℕ}
    (hitems : ∀ {depth seen cs v rest}, (∀ x ∈ seen, Readable depth x) →
      readItems fuel depth seen cs = some (v, rest) → Readable (depth + 1) v)
    (hfields : ∀ {depth seen cs v rest}, Entries.Sorted seen → (∀ e ∈ seen, Readable depth e.2) →
      readFields fuel depth seen cs = some (v, rest) → Readable (depth + 1) v)
    {depth : ℕ} {cs rest : List Char} {v : Json}
    (h : readValue (fuel + 1) depth cs = some (v, rest)) : Readable depth v := by
  rw [readValue] at h
  split at h
  · obtain ⟨tail, -, heq⟩ := Option.map_eq_some_iff.mp h
    obtain ⟨rfl, -⟩ := Prod.mk.inj heq
    exact .null
  · obtain ⟨tail, -, heq⟩ := Option.map_eq_some_iff.mp h
    obtain ⟨rfl, -⟩ := Prod.mk.inj heq
    exact .bool true
  · obtain ⟨tail, -, heq⟩ := Option.map_eq_some_iff.mp h
    obtain ⟨rfl, -⟩ := Prod.mk.inj heq
    exact .bool false
  · obtain ⟨r, -, heq⟩ := Option.map_eq_some_iff.mp h
    obtain ⟨rfl, -⟩ := Prod.mk.inj heq
    exact .str r.1
  · split at h
    · exact nomatch h
    · split at h
      · obtain ⟨rfl, -⟩ := Prod.mk.inj (Option.some.inj h)
        exact .arr fun x hx => absurd hx List.not_mem_nil
      · exact hitems (fun x hx => absurd hx List.not_mem_nil) h
  · split at h
    · exact nomatch h
    · split at h
      · obtain ⟨rfl, -⟩ := Prod.mk.inj (Option.some.inj h)
        exact .obj .nil fun e he => absurd he List.not_mem_nil
      · exact hfields .nil (fun e he => absurd he List.not_mem_nil) h
  · obtain ⟨⟨n, tail⟩, hn, heq⟩ := Option.map_eq_some_iff.mp h
    obtain ⟨rfl, -⟩ := Prod.mk.inj heq
    exact .num (Number.fits_of_read hn)

/-- Whatever is read is readable, at the depth at which it was read. -/
theorem readable_of_reader (fuel : ℕ) :
    (∀ {depth cs v rest}, readValue fuel depth cs = some (v, rest) → Readable depth v) ∧
      (∀ {depth seen cs v rest}, (∀ x ∈ seen, Readable depth x) →
        readItems fuel depth seen cs = some (v, rest) → Readable (depth + 1) v) ∧
      ∀ {depth seen cs v rest}, Entries.Sorted seen → (∀ e ∈ seen, Readable depth e.2) →
        readFields fuel depth seen cs = some (v, rest) → Readable (depth + 1) v := by
  induction fuel with
  | zero =>
    refine ⟨fun h => ?_, fun _ h => ?_, fun _ _ h => ?_⟩
    · rw [readValue] at h
      exact nomatch h
    · rw [readItems] at h
      exact nomatch h
    · rw [readFields] at h
      exact nomatch h
  | succ fuel ih =>
    obtain ⟨hvalue, hitems, hfields⟩ := ih
    exact ⟨readable_of_readValue hitems hfields, readable_of_readItems hvalue hitems,
      readable_of_readFields hvalue hfields⟩

theorem readable_of_ofBytes? {bytes : ByteArray} {v : Json} (h : ofBytes? bytes = some v) :
    Readable maxDepth v := by
  obtain ⟨text, -, h⟩ := Option.bind_eq_some_iff.mp h
  unfold parse? at h
  obtain ⟨⟨v', rest⟩, hread, h⟩ := Option.bind_eq_some_iff.mp h
  dsimp only at h
  split_ifs at h
  obtain rfl := Option.some.inj h
  exact (readable_of_reader _).1 hread

end Json

end MachineActuator
