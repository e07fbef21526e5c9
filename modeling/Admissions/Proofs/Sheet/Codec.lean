import Mathlib.Data.List.Forall2
import Admissions.Proofs.Json.Text
import Admissions.Sheet.Cell

namespace Admissions

/-! ### Decoders that read each value on its own -/

namespace Decoding

/-- The decoding that gives a reading's value or refuses with its message. -/
def ofExcept {α : Type} : Except String α → Decoding α
  | .ok v => pure v
  | .error msg => refuse msg

@[simp]
theorem refuse_bind {α β : Type} (msg : String) (f : α → Decoding β) : refuse msg >>= f = refuse msg :=
  rfl

@[simp]
theorem ofExcept_pure {α : Type} (v : α) : ofExcept (pure v : Except String α) = pure v :=
  rfl

theorem ofExcept_bind {α β : Type} (e : Except String α) (f : α → Except String β) :
    ofExcept (e >>= f) = ofExcept e >>= fun a => ofExcept (f a) := by
  cases e with
  | error msg => rfl
  | ok v => rfl

theorem result_ofExcept {α : Type} (e : Except String α) : (ofExcept e).result = e.mapError .refused := by
  cases e <;> rfl

end Decoding

namespace Decoder

variable {α β : Type}

/-- A list read from an array is its elements read into the old list. -/
theorem list_arr (d : Decoder α) (empty : α) (target : String) (site : DecodeSite) (items : List Json)
    (old : List α) : list d empty target site (.arr items) old = elements d empty site (old ++ []) 0 items := by
  simp [list, sparedList, refill]

/-- When a decoder reads each value on its own, whatever it reads into, the elements of
an array are read one after another and the first refusal stops them. -/
theorem elements_map_ofExcept {d : Decoder α} (wrap : β → Json) {r : β → Except String α}
    (reads : ∀ b site old, d site (wrap b) old = Decoding.ofExcept (r b)) (empty : α) (site : DecodeSite)
    (old : List α) : ∀ (bs : List β) (i : Nat), elements d empty site old i (bs.map wrap) = Decoding.ofExcept (bs.mapM r)
  | [], _ => rfl
  | b :: bs, i => by
    simp only [List.map_cons, elements, reads, List.mapM_cons, Decoding.ofExcept_bind,
      elements_map_ofExcept wrap reads empty site old bs (i + 1), Decoding.ofExcept_pure]

end Decoder

/-! ### Cells -/

namespace Cell

/-- A cell that can be written and read back: a text of some characters, a number
whose exponent is not below the smallest 32-bit one. -/
def Writable : Cell → Prop
  | .number d => Decimal.minExponent ≤ d.exponent
  | .text s => s ≠ ""
  | _ => True

/-- Cells of the same kind with the same text or truth value, or numbers of the same value. -/
def Same : Cell → Cell → Prop
  | .blank, .blank => True
  | .number d, .number e => e.value = d.value
  | .text s, .text t => t = s
  | .boolean b, .boolean c => c = b
  | _, _ => False

/-- A cell as it reads back from its JSON: a number comes back in plain notation. -/
def reread : Cell → Cell
  | .number d => .number (Decimal.written d).decimal
  | c => c

theorem same_reread (c : Cell) : Same c (reread c) := by
  cases c <;> simp [Same, reread, Decimal.written_value]

theorem decoder_eq (site : DecodeSite) (j : Json) (old : Cell) :
    decoder site j old = Decoding.ofExcept (ofJson j) := by
  unfold decoder
  cases ofJson j <;> rfl

theorem toString_eq_written (d : Decimal) : d.toString = String.ofList (Decimal.written d).text := by
  rw [Decimal.toString, ← Decimal.toText_written, String.ofList_toList]

theorem toJson_readable (c : Cell) : Json.Readable c.toJson := by
  cases c with
  | blank => exact .null
  | number d =>
    rw [toJson, toString_eq_written]
    exact .num (Decimal.written_form d)
  | text s => exact .str s
  | boolean b => exact .bool b

theorem ofJson_toJson {c : Cell} (writable : c.Writable) : ofJson c.toJson = .ok c.reread := by
  cases c with
  | blank => rfl
  | number d =>
    have read := (Decimal.ofString_toString d writable).1
    simp [toJson, ofJson, read, reread]
  | text s =>
    have nonempty : s.isEmpty = false := by simpa [Writable, String.isEmpty_iff] using writable
    simp [toJson, ofJson, nonempty, reread]
  | boolean b => rfl

theorem ofJson_str (s : String) : ofJson (.str s) = .ok (if s = "" then .blank else .text s) := by
  by_cases empty : s = "" <;> simp [ofJson, empty, String.isEmpty_iff]

/-- A numeral in JSON form reads as the decimal it stands for, unless its exponent does
not fit 32 bits as written or once its fractional digits are counted. -/
theorem ofJson_numeral {n : Decimal.Numeral} (form : n.JsonForm) :
    ofJson (.num (String.ofList n.text)) =
      if Decimal.Fits n.exponentValue ∧ Decimal.Fits (n.exponentValue - n.places) then .ok (.number n.decimal)
      else .error ("unsupported cell value " ++ String.ofList n.text) := by
  have read : Decimal.ofString (String.ofList n.text) =
      if Decimal.Fits n.exponentValue ∧ Decimal.Fits (n.exponentValue - n.places) then .ok n.decimal
      else .error (.exponentTooLong (String.ofList n.text)) := by
    rw [Decimal.ofString, String.toList_ofList]
    exact Decimal.Numeral.ofChars_text form
  by_cases fits : Decimal.Fits n.exponentValue ∧ Decimal.Fits (n.exponentValue - n.places)
  · rw [if_pos fits] at read ⊢
    simp [ofJson, read]
  · rw [if_neg fits] at read ⊢
    simp [ofJson, read]

/-- A cell written as an array or an object is refused with the text it stands as in
the sheet's text, blanks inside it included. -/
theorem ofJson_read_composite {fuel : Nat} {cs after : List Char} {v : Json}
    (read : Json.readValue fuel cs = .ok (v, after))
    (composite : v.kindName = "array" ∨ v.kindName = "object") :
    ofJson v = .error ("unsupported cell value " ++
      String.ofList ((Json.skipBlank cs).take ((Json.skipBlank cs).length - after.length))) := by
  rw [← Json.readValue_source read composite]
  cases v with
  | arr items w => rfl
  | obj fields w => rfl
  | _ => simp [Json.kindName] at composite

end Cell

/-! ### Grids -/

namespace Grid

theorem row_decoder (site : DecodeSite) (cells : List Json) (old : List Cell) :
    Decoder.list Cell.decoder .blank "[]admission.Cell" site (.arr cells) old =
      Decoding.ofExcept (cells.mapM Cell.ofJson) := by
  have each := Decoder.elements_map_ofExcept id (fun j site old => Cell.decoder_eq site j old) .blank site
    (old ++ []) cells 0
  rw [List.map_id] at each
  rw [Decoder.list_arr, each]

/-- A grid of arrays is read cell by cell; the first cell refused refuses it. -/
theorem decoder_rows (site : DecodeSite) (rows : List (List Json)) (old : Grid) :
    decoder site (.arr (rows.map .arr)) old =
      Decoding.ofExcept (rows.mapM fun row : List Json => row.mapM Cell.ofJson) := by
  rw [decoder, Decoder.list_arr]
  exact Decoder.elements_map_ofExcept Json.arr (fun cells site old => row_decoder site cells old) []
    site (old ++ []) rows 0

theorem toJson_readable (g : Grid) : Json.Readable (toJson g) := by
  refine .arr fun row member => ?_
  obtain ⟨cells, -, rfl⟩ := List.mem_map.mp member
  refine .arr fun x inRow => ?_
  obtain ⟨c, -, rfl⟩ := List.mem_map.mp inRow
  exact Cell.toJson_readable c

theorem mapM_ok {β γ : Type} {l : List β} {f : β → Except String γ} {g : β → γ}
    (each : ∀ x ∈ l, f x = .ok (g x)) : l.mapM f = .ok (l.map g) := by
  induction l with
  | nil => rfl
  | cons x xs ih =>
    rw [List.mapM_cons, each x List.mem_cons_self, ih (fun y member => each y (List.mem_cons_of_mem x member))]
    rfl

/-- Reading a grid of arrays gives its cells read one by one, or the first refusal. -/
theorem run_rows (rows : List (List Json)) :
    decoder.run [] (.arr (rows.map .arr)) (some "Grid") =
      (rows.mapM fun row : List Json => row.mapM Cell.ofJson).mapError .refused := by
  rw [Decoder.run, decoder_rows, Decoding.result_ofExcept]

/-- A grid of cells that can be written reads back from its JSON text, every number
in plain notation. -/
theorem runText_toJson {g : Grid} (writable : ∀ row ∈ g, ∀ c ∈ row, c.Writable) :
    decoder.runText [] (toJson g).render (some "Grid") = .ok (g.map (·.map Cell.reread)) := by
  have spelled : toJson g = .arr ((g.map (·.map Cell.toJson)).map .arr) := by
    simp [toJson]
  have cells : (g.map (·.map Cell.toJson)).mapM (fun row : List Json => row.mapM Cell.ofJson) =
      .ok (g.map (·.map Cell.reread)) := by
    rw [List.mapM_map]
    refine mapM_ok fun row inGrid => ?_
    rw [Function.comp_apply, List.mapM_map]
    exact mapM_ok fun c inRow => Cell.ofJson_toJson (writable row inGrid c inRow)
  simp only [Decoder.runText, Json.parse_render (toJson_readable g)]
  rw [spelled, run_rows, cells]
  rfl

theorem same_reread (g : Grid) : List.Forall₂ (List.Forall₂ Cell.Same) g (g.map (·.map Cell.reread)) := by
  refine List.forall₂_map_right_iff.mpr (List.forall₂_same.mpr fun row _ => ?_)
  exact List.forall₂_map_right_iff.mpr (List.forall₂_same.mpr fun c _ => Cell.same_reread c)

end Grid

/-- Cells written as JSON read back cell by cell: a grid of cells that can be written
comes back from its text as cells of the same kind with the same text, truth value or
number value. Reading a grid of arrays reads each cell on its own and stops at the first
refusal. A scalar read and written again is the same scalar, `""` and `null` both
written `null`, and a numeral in JSON form comes back as a numeral of the same value
unless its exponent does not fit 32 bits, as written or once its fractional digits are
counted: then it is refused as an unsupported cell value, as every array and object is. -/
theorem sheet_cells_round_trip :
    (∀ g : Grid, (∀ row ∈ g, ∀ c ∈ row, c.Writable) →
      ∃ g', Grid.decoder.runText [] (Grid.toJson g).render (some "Grid") = .ok g' ∧
        List.Forall₂ (List.Forall₂ Cell.Same) g g') ∧
    (∀ rows : List (List Json), Grid.decoder.run [] (.arr (rows.map .arr)) (some "Grid") =
      (rows.mapM fun row : List Json => row.mapM Cell.ofJson).mapError .refused) ∧
    (Cell.toJson <$> Cell.ofJson .null = .ok .null ∧
      ∀ s, Cell.toJson <$> Cell.ofJson (.str s) = .ok (if s = "" then .null else .str s)) ∧
    (∀ b, Cell.toJson <$> Cell.ofJson (.bool b) = .ok (.bool b)) ∧
    (∀ n : Decimal.Numeral, n.JsonForm →
      if Decimal.Fits n.exponentValue ∧ Decimal.Fits (n.exponentValue - n.places) then
        ∃ m : Decimal.Numeral, m.JsonForm ∧ m.decimal.value = n.decimal.value ∧
          Cell.toJson <$> Cell.ofJson (.num (String.ofList n.text)) = .ok (.num (String.ofList m.text))
      else Cell.ofJson (.num (String.ofList n.text)) = .error ("unsupported cell value " ++ String.ofList n.text)) ∧
    (∀ items, Cell.ofJson (.arr items) = .error ("unsupported cell value " ++ (Json.arr items).render)) ∧
    ∀ fields, Cell.ofJson (.obj fields) = .error ("unsupported cell value " ++ (Json.obj fields).render) := by
  refine ⟨fun g writable => ⟨_, Grid.runText_toJson writable, Grid.same_reread g⟩, Grid.run_rows,
    ⟨rfl, fun s => ?text⟩, fun b => rfl, fun n form => ?number, fun items => rfl, fun fields => rfl⟩
  case text =>
    rw [Cell.ofJson_str]
    split <;> rfl
  case number =>
    rw [Cell.ofJson_numeral form]
    split
    · refine ⟨Decimal.written n.decimal, Decimal.written_form _, Decimal.written_value _, ?_⟩
      simp [Functor.map, Except.map, Cell.toJson, Cell.toString_eq_written]
    · rfl

/-- A grid of a number, a text, a blank and a truth value comes back from its text. -/
theorem mixed_row_reads_back :
    ∃ g', Grid.decoder.runText []
        (Grid.toJson [[.number ⟨150, -1⟩, .text "a", .blank, .boolean true]]).render (some "Grid") = .ok g' ∧
      List.Forall₂ (List.Forall₂ Cell.Same) [[.number ⟨150, -1⟩, .text "a", .blank, .boolean true]] g' :=
  sheet_cells_round_trip.1 _ (by simp [Cell.Writable, Decimal.minExponent])

/-- `1e2147483648`, a numeral in JSON form whose exponent is one past the largest 32-bit one. -/
def wideNumeral : Decimal.Numeral := ⟨false, ['1'], none, some ⟨'e', [], "2147483648".toList⟩⟩

/-- A grid holding a number whose exponent does not fit 32 bits is refused. -/
theorem wide_exponent_refused :
    Grid.decoder.runText [] "[[1e2147483648]]" (some "Grid") =
      .error (.refused "unsupported cell value 1e2147483648") := by
  have form : wideNumeral.JsonForm :=
    ⟨by decide, List.all_eq_true.mp (by decide), by decide, (fun f none => by cases none),
      (fun x marked => by cases marked; exact ⟨.inl rfl, .inl rfl, by decide, List.all_eq_true.mp (by decide)⟩)⟩
  have spelled : String.ofList wideNumeral.text = "1e2147483648" := by decide
  have wide : ¬ (Decimal.Fits wideNumeral.exponentValue ∧
      Decimal.Fits (wideNumeral.exponentValue - wideNumeral.places)) := by decide
  have text : "[[1e2147483648]]" = (Json.arr ([[Json.num (String.ofList wideNumeral.text)]].map .arr)).render := by
    rw [spelled]
    decide
  have readable : Json.Readable (.arr ([[Json.num (String.ofList wideNumeral.text)]].map .arr)) :=
    .arr fun row inGrid => by
      obtain rfl : row = .arr [.num (String.ofList wideNumeral.text)] := by simpa using inGrid
      exact .arr fun x inRow => by
        obtain rfl : x = .num (String.ofList wideNumeral.text) := by simpa using inRow
        exact .num form
  rw [text]
  simp only [Decoder.runText, Json.parse_render readable]
  rw [Grid.run_rows]
  simp only [List.mapM_cons, List.mapM_nil, Cell.ofJson_numeral form, if_neg wide]
  rw [spelled]
  rfl

end Admissions
