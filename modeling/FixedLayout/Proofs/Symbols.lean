import FixedLayout.Base64.Alphabet
import Mathlib.Data.List.Nodup

/-!
Which characters stand for which sextets. A table that is entered symbol by symbol is the inverse of
its alphabet, so that a mode reads a symbol as the place where it is written.
-/
namespace FixedLayout.Base64

/-- A mode reads a symbol as its place in an alphabet. In the URL-safe mode both alphabets are
good. -/
def Mode.Denotes (mode : Mode) (c : Char) (value : Sextet) : Prop :=
  Alphabet.standard.symbol value = c ∨ mode = .urlSafe ∧ Alphabet.urlSafe.symbol value = c

/-- The characters that a mode takes for symbols. -/
def Mode.Accepts (mode : Mode) (c : Char) : Prop :=
  c ∈ Alphabet.standard.symbols ∨ mode = .urlSafe ∧ c ∈ Alphabet.urlSafe.symbols

namespace Alphabet

variable {alphabet : Alphabet} {c : Char} {value : Sextet} {n : Nat}

theorem isAscii_symbol (alphabet : Alphabet) (value : Sextet) : isAscii (alphabet.symbol value) :=
  List.all_eq_true.mp alphabet.ascii _ (List.get_mem ..)

theorem mem_symbols_iff : c ∈ alphabet.symbols ↔ ∃ value, alphabet.symbol value = c := by
  constructor
  · intro member
    obtain ⟨place, rfl⟩ := List.mem_iff_get.mp member
    exact ⟨place.cast alphabet.length_eq, rfl⟩
  · rintro ⟨value, rfl⟩
    exact List.get_mem ..

theorem text_inj {a b : Alphabet} : a.text = b.text ↔ a = b := by
  constructor
  · intro same
    have symbols := String.ofList_injective same
    cases a
    cases b
    cases symbols
    rfl
  · rintro rfl
    rfl

/-- Exactly the texts of alphabets are taken for one. -/
theorem ofString_eq_ok_iff {text : String} :
    ofString text = .ok alphabet ↔ alphabet.text = text := by
  constructor
  · intro accepted
    rw [ofString] at accepted
    split at accepted
    · cases accepted
      exact String.ofList_toList
    · cases accepted
  · rintro rfl
    have symbols : alphabet.text.toList = alphabet.symbols := String.toList_ofList
    have valid : alphabet.text.toList.length = 64 ∧ alphabet.text.toList.all isAscii := by
      rw [symbols]
      exact ⟨alphabet.length_eq, alphabet.ascii⟩
    rw [ofString, dif_pos valid, Except.ok.injEq, ← text_inj]
    exact String.ofList_toList

theorem length_foldl_enter (values : List Sextet) (table : List (Option Sextet)) :
    (values.foldl alphabet.enter table).length = table.length := by
  induction values generalizing table with
  | nil => rfl
  | cons value rest ih => rw [List.foldl_cons, ih, enter, List.length_set]

theorem getElem?_enter {table : List (Option Sextet)} (entered : Sextet)
    (size : table.length = 256) :
    (alphabet.enter table entered)[n]? = some (some value) ↔
      (alphabet.symbol entered).toNat = n ∧ entered = value ∨
      (alphabet.symbol entered).toNat ≠ n ∧ table[n]? = some (some value) := by
  have small : (alphabet.symbol entered).toNat < 128 :=
    of_decide_eq_true (alphabet.isAscii_symbol entered)
  have inside : (alphabet.symbol entered).toNat < table.length := by omega
  rw [enter]
  by_cases here : (alphabet.symbol entered).toNat = n
  · subst here
    rw [List.getElem?_set_self inside]
    simp
  · rw [List.getElem?_set_ne here]
    simp [here]

/-- No entry is written over when the symbols differ. -/
theorem getElem?_foldl_enter (distinct : alphabet.symbol.Injective) (values : List Sextet)
    {table : List (Option Sextet)} (size : table.length = 256) :
    (values.foldl alphabet.enter table)[n]? = some (some value) ↔
      value ∈ values ∧ (alphabet.symbol value).toNat = n ∨
      (∀ other ∈ values, (alphabet.symbol other).toNat ≠ n) ∧ table[n]? = some (some value) := by
  induction values generalizing table with
  | nil => simp
  | cons entered rest ih =>
    have kept : (alphabet.enter table entered).length = 256 := by
      rw [enter, List.length_set, size]
    rw [List.foldl_cons, ih kept, getElem?_enter entered size, List.mem_cons, List.forall_mem_cons]
    constructor
    · rintro (⟨member, place⟩ | ⟨others, ⟨place, rfl⟩ | ⟨free, old⟩⟩)
      · exact .inl ⟨.inr member, place⟩
      · exact .inl ⟨.inl rfl, place⟩
      · exact .inr ⟨⟨free, others⟩, old⟩
    · rintro (⟨rfl | member, place⟩ | ⟨⟨free, others⟩, old⟩)
      · -- Entered again later, it gets the same entry; another symbol has another byte.
        by_cases later : value ∈ rest
        · exact .inl ⟨later, place⟩
        · refine .inr ⟨?_, .inl ⟨place, rfl⟩⟩
          intro other member same
          have equal := distinct (Char.toNat_inj.mp (same.trans place.symm))
          exact later (equal ▸ member)
      · exact .inl ⟨member, place⟩
      · exact .inr ⟨others, .inr ⟨free, old⟩⟩

theorem length_symbolTable (alphabet : Alphabet) : alphabet.symbolTable.length = 256 := by
  rw [symbolTable, length_foldl_enter, List.length_replicate]

theorem length_decodeTable (alphabet : Alphabet) (acceptStandard : Bool) :
    (alphabet.decodeTable acceptStandard).length = 256 := by
  cases acceptStandard with
  | false => exact alphabet.length_symbolTable
  | true => rw [decodeTable, if_pos rfl, List.length_set, List.length_set, length_symbolTable]

theorem getElem?_symbolTable (distinct : alphabet.symbol.Injective) :
    alphabet.symbolTable[n]? = some (some value) ↔ (alphabet.symbol value).toNat = n := by
  have size : (List.replicate 256 (none : Option Sextet)).length = 256 := List.length_replicate ..
  have empty : (List.replicate 256 (none : Option Sextet))[n]? ≠ some (some value) := by
    intro full
    obtain ⟨inside, equal⟩ := List.getElem?_eq_some_iff.mp full
    rw [List.getElem_replicate] at equal
    cases equal
  rw [symbolTable, getElem?_foldl_enter distinct _ size, or_iff_left fun rest => empty rest.2,
    and_iff_right (List.mem_finRange value)]

theorem getElem?_decodeTable_standard (distinct : alphabet.symbol.Injective) :
    (alphabet.decodeTable true)[n]? = some (some value) ↔
      if n = '/'.toNat then value = 63 else if n = '+'.toNat then value = 62
        else (alphabet.symbol value).toNat = n := by
  have size := alphabet.length_symbolTable
  rw [decodeTable, if_pos rfl]
  split
  · rename_i slash
    rw [slash, List.getElem?_set_self (by rw [List.length_set, size]; decide)]
    simp [eq_comm]
  · rename_i other
    rw [List.getElem?_set_ne (Ne.symm other)]
    split
    · rename_i plus
      rw [plus, List.getElem?_set_self (by rw [size]; decide)]
      simp [eq_comm]
    · rename_i different
      rw [List.getElem?_set_ne (Ne.symm different), getElem?_symbolTable distinct]

theorem symbol_injective (distinct : alphabet.symbols.Nodup) : alphabet.symbol.Injective := by
  intro a b same
  have place := List.nodup_iff_injective_get.mp distinct same
  simpa [Fin.ext_iff] using place

theorem nodup_symbols_iff : alphabet.symbols.Nodup ↔ alphabet.symbol.Injective := by
  constructor
  · exact symbol_injective
  · intro distinct
    rw [List.nodup_iff_injective_get]
    intro i j same
    have place := @distinct (i.cast alphabet.length_eq) (j.cast alphabet.length_eq) same
    simpa [Fin.ext_iff] using place

theorem standard_injective : standard.symbol.Injective := symbol_injective (by decide +kernel)

theorem urlSafe_injective : urlSafe.symbol.Injective := symbol_injective (by decide +kernel)

/-- The two alphabets differ in the last two symbols. -/
theorem symbol_standard (value : Sextet) : standard.symbol value =
    if value = 63 then '/' else if value = 62 then '+' else urlSafe.symbol value := by
  revert value
  decide +kernel

theorem symbol_urlSafe_ne (value : Sextet) :
    urlSafe.symbol value ≠ '/' ∧ urlSafe.symbol value ≠ '+' := by
  revert value
  decide +kernel

theorem symbol_ne_pad (value : Sextet) :
    standard.symbol value ≠ padSymbol ∧ urlSafe.symbol value ≠ padSymbol := by
  revert value
  decide +kernel

theorem symbol_eq_or_iff : standard.symbol value = c ∨ urlSafe.symbol value = c ↔
    if c = '/' then value = 63 else if c = '+' then value = 62 else urlSafe.symbol value = c := by
  obtain ⟨slash, plus⟩ := symbol_urlSafe_ne value
  rw [symbol_standard]
  grind

end Alphabet

variable {mode : Mode} {c : Char} {value : Sextet}

theorem Mode.length_decodeTable (mode : Mode) : mode.decodeTable.length = 256 := by
  cases mode with
  | standard => rw [decodeTable, Alphabet.length_decodeTable]
  | urlSafe => rw [decodeTable, Alphabet.length_decodeTable]

theorem Mode.sextet?_eq_some_iff : mode.sextet? c = some value ↔ mode.Denotes c value := by
  rw [sextet?, Option.join_eq_some_iff]
  cases mode with
  | standard =>
    change Alphabet.standard.symbolTable[c.toNat]? = _ ↔ _
    rw [Alphabet.getElem?_symbolTable Alphabet.standard_injective, Char.toNat_inj]
    simp [Denotes]
  | urlSafe =>
    rw [decodeTable, Alphabet.getElem?_decodeTable_standard Alphabet.urlSafe_injective]
    simp only [Char.toNat_inj, ← Alphabet.symbol_eq_or_iff, Denotes, true_and]

theorem Mode.accepts_iff : mode.Accepts c ↔ ∃ value, mode.Denotes c value := by
  simp only [Accepts, Denotes, Alphabet.mem_symbols_iff, exists_or, exists_and_left]

theorem Mode.sextet?_eq_none_iff : mode.sextet? c = none ↔ ¬ mode.Accepts c := by
  rw [accepts_iff, not_exists, Option.eq_none_iff_forall_ne_some]
  simp only [ne_eq, sextet?_eq_some_iff]

theorem Mode.Accepts.isAscii (accepted : mode.Accepts c) : isAscii c := by
  obtain ⟨value, denotes⟩ := accepts_iff.mp accepted
  rcases denotes with rfl | ⟨-, rfl⟩
  · exact Alphabet.standard.isAscii_symbol value
  · exact Alphabet.urlSafe.isAscii_symbol value

theorem Mode.not_denotes_pad (mode : Mode) (value : Sextet) : ¬ mode.Denotes padSymbol value := by
  obtain ⟨standard, urlSafe⟩ := Alphabet.symbol_ne_pad value
  rintro (pad | ⟨-, pad⟩)
  · exact standard pad
  · exact urlSafe pad

end FixedLayout.Base64
