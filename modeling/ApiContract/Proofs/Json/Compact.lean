import ApiContract.Json.Printer
import ApiContract.Json.Reader
import ApiContract.Proofs.Text.Lines

/-!
The compact text of a value without numbers determines the value. A text is cut off at its own end,
whatever stands behind it: quoted texts since they are read back, lists and objects since each of
their items is cut off in turn.
-/

set_option autoImplicit false

namespace ApiContract.Json

theorem hex_digit_value : ∀ n : Fin 16, hexValue? (hexDigit n) = some n.val := by
  decide

theorem hex_digit_size : ∀ n : Fin 16, (hexDigit n).utf8Size = 1 := by
  decide

-- Two zeros and two digits, as a control character is written.
theorem hex_read (high low : Nat) (rest : List Char) (highDigit : high < 16) (lowDigit : low < 16) :
    readHex ('0' :: '0' :: hexDigit high :: hexDigit low :: rest) =
      .ok (16 * high + low, rest) := by
  have highValue := hex_digit_value ⟨high, highDigit⟩
  have lowValue := hex_digit_value ⟨low, lowDigit⟩
  have highSize := hex_digit_size ⟨high, highDigit⟩
  have lowSize := hex_digit_size ⟨low, lowDigit⟩
  have zeroValue : hexValue? '0' = some 0 := by decide
  have zeroSize : ('0' : Char).utf8Size = 1 := by decide
  simp only at highValue lowValue highSize lowSize
  simp [readHex, readHex.take, bytesOf, highValue, lowValue, highSize, lowSize, zeroValue, zeroSize]

theorem control_read (c : Char) (rest : List Char) (control : c.toNat < 32) :
    readEscape ('u' :: '0' :: '0' :: hexDigit (c.toNat / 16) :: hexDigit (c.toNat % 16) :: rest) =
      .ok (c, rest) := by
  have digits := hex_read (c.toNat / 16) (c.toNat % 16) rest (by omega) (by omega)
  rw [Nat.div_add_mod] at digits
  have low : ¬ (0xDC00 ≤ c.toNat ∧ c.toNat ≤ 0xDFFF) := by omega
  have apart : c.toNat < 0xD800 ∨ 0xDBFF < c.toNat := by omega
  simp [readEscape, digits, low, apart]

theorem escaped_char_read (c : Char) (fuel : Nat) (done rest : List Char) :
    readText (fuel + 1) done (escapeChar c ++ rest) = readText fuel (c :: done) rest := by
  rw [escapeChar]
  split_ifs with quote slash feed return_ tab back form control
  · simp [readText, readEscape, quote]
  · simp [readText, readEscape, slash]
  · simp [readText, readEscape, feed]
  · simp [readText, readEscape, return_]
  · simp [readText, readEscape, tab]
  · simp [readText, readEscape, back]
  · simp [readText, readEscape, form]
  · simp [readText, control_read c rest control]
  · simp [readText, quote, slash, control]

theorem escaped_read (cs done rest : List Char) (fuel : Nat) (enough : cs.length < fuel) :
    readText fuel done (cs.flatMap escapeChar ++ '"' :: rest) =
      .ok (String.ofList (done.reverse ++ cs), rest) := by
  induction cs generalizing fuel done with
  | nil =>
      obtain ⟨less, rfl⟩ := Nat.exists_eq_add_of_lt enough
      simp [readText]
  | cons c others ih =>
      cases fuel with
      | zero => cases enough
      | succ fuel =>
          rw [List.flatMap_cons, List.append_assoc, escaped_char_read,
            ih (c :: done) fuel (Nat.lt_of_succ_lt_succ enough)]
          simp

theorem quote_read (text : String) (fuel : Nat) (rest : List Char)
    (enough : text.toList.length < fuel) :
    (quote text).toList ++ rest = '"' :: (text.toList.flatMap escapeChar ++ '"' :: rest) ∧
      readText fuel [] (text.toList.flatMap escapeChar ++ '"' :: rest) = .ok (text, rest) := by
  refine ⟨by simp [quote], ?_⟩
  rw [escaped_read _ _ _ fuel enough]
  simp

section

variable {α : Type} (text : α → String) (known : α → Prop)

-- The text of an item ends where it ends, whatever stands behind it.
def CutsOff (a : α) : Prop :=
  ∀ b, known b → ∀ x y, (text a).toList ++ x = (text b).toList ++ y → a = b ∧ x = y

theorem row_cut (stop : Char) (noComma : stop ≠ ',') (xs ys : List α)
    (cuts : ∀ a ∈ xs, CutsOff text known a) (each : ∀ b ∈ ys, known b) (x y : List Char)
    (same : (xs.flatMap fun a => ",".toList ++ (text a).toList) ++ stop :: x =
      (ys.flatMap fun b => ",".toList ++ (text b).toList) ++ stop :: y) : xs = ys ∧ x = y := by
  induction xs generalizing ys with
  | nil =>
      cases ys with
      | nil => exact ⟨rfl, by simpa using same⟩
      | cons b others => simp [noComma] at same
  | cons a rest ih =>
      cases ys with
      | nil => simp [noComma.symm] at same
      | cons b others =>
          obtain ⟨own, later⟩ := List.forall_mem_cons.mp cuts
          obtain ⟨first, more⟩ := List.forall_mem_cons.mp each
          simp only [List.flatMap_cons, List.append_assoc] at same
          obtain ⟨rfl, onward⟩ := own b first _ _ (List.append_cancel_left same)
          obtain ⟨rfl, behind⟩ := ih others later more onward
          exact ⟨rfl, behind⟩

theorem joined_row (a : α) (rest : List α) (behind : List Char) :
    ",".toList ++ ((Text.join "," ((a :: rest).map text)).toList ++ behind) =
      ((a :: rest).flatMap fun a => ",".toList ++ (text a).toList) ++ behind := by
  rw [List.map_cons, Text.join_chars, List.flatMap_map, List.flatMap_cons]
  simp only [List.append_assoc]

-- Items with commas between them, up to a mark that no item begins with.
theorem joined_cut (stop : Char) (noComma : stop ≠ ',')
    (starts : ∀ a, known a → ∃ c rest, (text a).toList = c :: rest ∧ c ≠ stop) (xs ys : List α)
    (cuts : ∀ a ∈ xs, CutsOff text known a) (each : ∀ a ∈ xs, known a)
    (otherEach : ∀ b ∈ ys, known b) (x y : List Char)
    (same : (Text.join "," (xs.map text)).toList ++ stop :: x =
      (Text.join "," (ys.map text)).toList ++ stop :: y) : xs = ys ∧ x = y := by
  have some_ (a : α) (rest : List α) (isKnown : known a) (front behind : List Char) :
      stop :: front ≠ (Text.join "," ((a :: rest).map text)).toList ++ behind := by
    obtain ⟨c, others, starts, apart⟩ := starts a isKnown
    rw [List.map_cons, Text.join_chars, starts]
    exact fun same => apart (List.cons.inj same).1.symm
  cases xs with
  | nil =>
      cases ys with
      | nil => exact ⟨rfl, by simpa [Text.join] using same⟩
      | cons b others => exact absurd same (some_ b others (otherEach b List.mem_cons_self) _ _)
  | cons a rest =>
      cases ys with
      | nil => exact absurd same.symm (some_ a rest (each a List.mem_cons_self) _ _)
      | cons b others =>
          apply row_cut text known stop noComma _ _ cuts otherEach
          rw [← joined_row, ← joined_row, same]

end

mutual

def Numberless : Json → Prop
  | .int _ => False
  | .float _ => False
  | .array items => AllNumberless items
  | .object fields => FieldsNumberless fields
  | .null => True
  | .bool _ => True
  | .text _ => True

def AllNumberless : List Json → Prop
  | [] => True
  | value :: rest => Numberless value ∧ AllNumberless rest

def FieldsNumberless : List (String × Json) → Prop
  | [] => True
  | (_, value) :: rest => Numberless value ∧ FieldsNumberless rest

end

theorem all_numberless_iff (items : List Json) :
    AllNumberless items ↔ ∀ value ∈ items, Numberless value := by
  induction items with
  | nil => simp [AllNumberless]
  | cons value rest ih => simp [AllNumberless, ih]

theorem fields_numberless_iff (fields : List (String × Json)) :
    FieldsNumberless fields ↔ ∀ field ∈ fields, Numberless field.2 := by
  induction fields with
  | nil => simp [FieldsNumberless]
  | cons field rest ih => simp [FieldsNumberless, ih]

def fieldText (field : String × Json) : String :=
  quote field.1 ++ ":" ++ compact field.2

theorem compact_items_map (items : List Json) : compactItems items = items.map compact := by
  induction items with
  | nil => rfl
  | cons value rest ih => simp [compactItems, ih]

theorem compact_fields_map (fields : List (String × Json)) :
    compactFields fields = fields.map fieldText := by
  induction fields with
  | nil => rfl
  | cons field rest ih => simp [compactFields, fieldText, ih]

-- The character that the text of a value begins with.
def lead : Json → Char
  | .null => 'n'
  | .bool value => if value then 't' else 'f'
  | .text _ => '"'
  | .array _ => '['
  | .object _ => '\x7b'
  | _ => ' '

theorem compact_lead (v : Json) (numberless : Numberless v) :
    ∃ rest, (compact v).toList = lead v :: rest := by
  cases v with
  | null => exact ⟨_, rfl⟩
  | bool value => cases value <;> exact ⟨_, rfl⟩
  | int value => exact absurd numberless id
  | float value => exact absurd numberless id
  | text value => exact ⟨_, by simp [compact, quote, lead]; rfl⟩
  | array items => exact ⟨_, by simp [compact, lead]; rfl⟩
  | object fields => exact ⟨_, by simp [compact, lead]; rfl⟩

theorem quote_cuts (text : String) : CutsOff quote (fun _ => True) text := by
  intro other _ x y same
  obtain ⟨split, reads⟩ :=
    quote_read text (text.toList.length + other.toList.length + 1) x (by omega)
  obtain ⟨otherSplit, otherReads⟩ :=
    quote_read other (text.toList.length + other.toList.length + 1) y (by omega)
  rw [split, otherSplit, List.cons.injEq] at same
  rw [same.2, otherReads] at reads
  cases reads
  exact ⟨rfl, rfl⟩

theorem field_cuts (field : String × Json) (cuts : CutsOff compact Numberless field.2) :
    CutsOff fieldText (fun other => Numberless other.2) field := by
  intro other numberless x y same
  simp only [fieldText, String.toList_append, List.append_assoc] at same
  obtain ⟨names, onward⟩ := quote_cuts field.1 other.1 trivial _ _ same
  obtain ⟨values, behind⟩ := cuts other.2 numberless _ _ (List.append_cancel_left onward)
  exact ⟨Prod.ext names values, behind⟩

theorem null_of_lead (v : Json) (leads : lead v = 'n') : v = .null := by
  cases v with
  | bool value => cases value <;> cases leads
  | null => rfl
  | _ => cases leads

theorem bool_of_lead (v : Json) (value : Bool) (leads : lead v = lead (.bool value)) :
    v = .bool value := by
  cases v with
  | bool other => cases value <;> cases other <;> simp [lead] at leads ⊢
  | _ => cases value <;> cases leads

theorem text_of_lead (v : Json) (leads : lead v = '"') : ∃ text, v = .text text := by
  cases v with
  | bool value => cases value <;> cases leads
  | text text => exact ⟨text, rfl⟩
  | _ => cases leads

theorem array_of_lead (v : Json) (leads : lead v = '[') : ∃ items, v = .array items := by
  cases v with
  | bool value => cases value <;> cases leads
  | array items => exact ⟨items, rfl⟩
  | _ => cases leads

theorem object_of_lead (v : Json) (leads : lead v = '\x7b') : ∃ fields, v = .object fields := by
  cases v with
  | bool value => cases value <;> cases leads
  | object fields => exact ⟨fields, rfl⟩
  | _ => cases leads

theorem lead_same (v w : Json) (x y : List Char) (numberless : Numberless v)
    (otherNumberless : Numberless w)
    (same : (compact v).toList ++ x = (compact w).toList ++ y) : lead w = lead v := by
  obtain ⟨rest, text⟩ := compact_lead v numberless
  obtain ⟨others, otherText⟩ := compact_lead w otherNumberless
  rw [text, otherText] at same
  exact (List.cons.inj same).1.symm

theorem compact_starts (stop : Char) (noValue : ∀ v, lead v ≠ stop) (v : Json)
    (numberless : Numberless v) : ∃ c rest, (compact v).toList = c :: rest ∧ c ≠ stop := by
  obtain ⟨rest, text⟩ := compact_lead v numberless
  exact ⟨lead v, rest, text, noValue v⟩

theorem no_value_closes (v : Json) : lead v ≠ ']' := by
  cases v with
  | bool value => cases value <;> decide
  | _ => nofun

mutual

theorem compact_cuts : ∀ v : Json, Numberless v → CutsOff compact Numberless v
  | .null, numberless => by
      intro w other x y same
      obtain rfl := null_of_lead w (lead_same _ _ x y numberless other same)
      exact ⟨rfl, List.append_cancel_left same⟩
  | .bool value, numberless => by
      intro w other x y same
      obtain rfl := bool_of_lead w value (lead_same _ _ x y numberless other same)
      exact ⟨rfl, List.append_cancel_left same⟩
  | .text words, numberless => by
      intro w other x y same
      obtain ⟨found, rfl⟩ := text_of_lead w (lead_same _ _ x y numberless other same)
      obtain ⟨rfl, behind⟩ := quote_cuts words found trivial x y same
      exact ⟨rfl, behind⟩
  | .array items, numberless => by
      intro w other x y same
      obtain ⟨found, rfl⟩ := array_of_lead w (lead_same _ _ x y numberless other same)
      simp only [compact, compact_items_map, String.toList_append, List.append_assoc] at same
      obtain ⟨rfl, behind⟩ := joined_cut compact Numberless ']' (by decide)
        (compact_starts ']' no_value_closes) items found (items_cut items numberless)
        ((all_numberless_iff items).mp numberless) ((all_numberless_iff found).mp other) x y
        (List.append_cancel_left same)
      exact ⟨rfl, behind⟩
  | .object fields, numberless => by
      intro w other x y same
      obtain ⟨found, rfl⟩ := object_of_lead w (lead_same _ _ x y numberless other same)
      simp only [compact, compact_fields_map, String.toList_append, List.append_assoc] at same
      obtain ⟨rfl, behind⟩ := joined_cut fieldText (fun field => Numberless field.2) '\x7d' (by decide)
        (fun field _ => ⟨'"', _, by simp [fieldText, quote]; rfl, by decide⟩) fields found
        (fields_cut fields numberless) ((fields_numberless_iff fields).mp numberless)
        ((fields_numberless_iff found).mp other) x y (List.append_cancel_left same)
      exact ⟨rfl, behind⟩
  | .int _, numberless => absurd numberless id
  | .float _, numberless => absurd numberless id

theorem items_cut : ∀ items : List Json, AllNumberless items →
    ∀ v ∈ items, CutsOff compact Numberless v
  | [], _ => nofun
  | v :: rest, ⟨own, later⟩ => List.forall_mem_cons.mpr ⟨compact_cuts v own, items_cut rest later⟩

theorem fields_cut : ∀ fields : List (String × Json), FieldsNumberless fields →
    ∀ field ∈ fields, CutsOff fieldText (fun other => Numberless other.2) field
  | [], _ => nofun
  | (name, v) :: rest, ⟨own, later⟩ =>
      List.forall_mem_cons.mpr ⟨field_cuts (name, v) (compact_cuts v own), fields_cut rest later⟩

end

theorem compact_injective (v w : Json) (numberless : Numberless v) (otherNumberless : Numberless w)
    (same : compact v = compact w) : v = w :=
  (compact_cuts v numberless w otherNumberless [] [] (by rw [same])).1

end ApiContract.Json
