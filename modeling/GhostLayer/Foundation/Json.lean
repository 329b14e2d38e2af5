import GhostLayer.Foundation.Bytes
import Mathlib.Data.Nat.Digits.Defs
import Mathlib.Tactic.IntervalCases

/-! # Compact JSON text

Values and the text a compact printer writes for them: no blanks, object fields
in the order given, strings escaped byte by byte, natural numbers in decimal.
Numbers with a sign, a fraction or an exponent are not told apart: `other` stands
for all of them, and its text is that of one of them. The main fact is that
printing is unambiguous: inside any surrounding text, the printed bytes
determine the value and where it ends.
-/

namespace Foundation

inductive Json where
  | null
  | bool (value : Bool)
  | num (value : Nat)
  | other
  | str (text : String)
  | arr (items : List Json)
  | obj (fields : List (String × Json))

namespace Json

/-! ## Printing -/

def hexDigit (value : Nat) : UInt8 :=
  UInt8.ofNat (if value < 10 then 48 + value else 87 + value)

/-- The escape of one byte of a string. -/
def escape (byte : UInt8) : Bytes :=
  if byte = 34 then [92, 34]
  else if byte = 92 then [92, 92]
  else if byte = 8 then [92, 98]
  else if byte = 9 then [92, 116]
  else if byte = 10 then [92, 110]
  else if byte = 12 then [92, 102]
  else if byte = 13 then [92, 114]
  else if byte < 32 then
    [92, 117, 48, 48, hexDigit (byte.toNat / 16), hexDigit (byte.toNat % 16)]
  else [byte]

def renderText (text : String) : Bytes :=
  34 :: (Bytes.ofText text).flatMap escape ++ [34]

def renderNat (value : Nat) : Bytes :=
  if value = 0 then [48]
  else (Nat.digits 10 value).reverse.map (fun digit => UInt8.ofNat (48 + digit))

mutual

def render : Json → Bytes
  | .null => [110, 117, 108, 108]
  | .bool true => [116, 114, 117, 101]
  | .bool false => [102, 97, 108, 115, 101]
  | .num value => renderNat value
  | .other => [45, 49]
  | .str text => renderText text
  | .arr [] => [91, 93]
  | .arr (item :: items) => 91 :: (render item ++ renderItems items)
  | .obj [] => [123, 125]
  | .obj ((name, value) :: fields) =>
      123 :: (renderText name ++ 58 :: (render value ++ renderFields fields))

/-- The rest of an array after its first item. -/
def renderItems : List Json → Bytes
  | [] => [93]
  | item :: items => 44 :: (render item ++ renderItems items)

/-- The rest of an object after its first field. -/
def renderFields : List (String × Json) → Bytes
  | [] => [125]
  | (name, value) :: fields =>
      44 :: (renderText name ++ 58 :: (render value ++ renderFields fields))

end

/-! ## Printing is unambiguous -/

/-- Read one escaped byte back. -/
def unescape : Bytes → Option (UInt8 × Bytes)
  | 92 :: 34 :: rest => some (34, rest)
  | 92 :: 92 :: rest => some (92, rest)
  | 92 :: 98 :: rest => some (8, rest)
  | 92 :: 116 :: rest => some (9, rest)
  | 92 :: 110 :: rest => some (10, rest)
  | 92 :: 102 :: rest => some (12, rest)
  | 92 :: 114 :: rest => some (13, rest)
  | 92 :: 117 :: 48 :: 48 :: high :: low :: rest =>
      let value (digit : UInt8) := if digit < 97 then digit - 48 else digit - 87
      some (value high * 16 + value low, rest)
  | byte :: rest => some (byte, rest)
  | [] => none

theorem control_cases {byte : UInt8} (hsmall : byte < 32) : ∃ value : Fin 32,
    byte = UInt8.ofNat value.val := by
  refine ⟨⟨byte.toNat, hsmall⟩, ?_⟩
  simp

theorem unescape_escape (byte : UInt8) (rest : Bytes) :
    unescape (escape byte ++ rest) = some (byte, rest) := by
  unfold escape
  split_ifs with h34 h92 h8 h9 h10 h12 h13 hsmall
  · simp [unescape, h34]
  · simp [unescape, h92]
  · simp [unescape, h8]
  · simp [unescape, h9]
  · simp [unescape, h10]
  · simp [unescape, h12]
  · simp [unescape, h13]
  · obtain ⟨value, rfl⟩ := control_cases hsmall
    simp only [List.cons_append, List.nil_append, unescape, Option.some.injEq, Prod.mk.injEq,
      and_true]
    revert value
    decide
  · unfold unescape
    split <;> simp_all

theorem escape_head (byte : UInt8) : ∃ first rest, escape byte = first :: rest ∧ first ≠ 34 := by
  unfold escape
  split_ifs <;> simp_all

/-- The closing quote is found, and the text before it is determined. -/
theorem flatMap_escape_inj {first second : Bytes} {rest rest' : Bytes}
    (htext : first.flatMap escape ++ 34 :: rest = second.flatMap escape ++ 34 :: rest') :
    first = second ∧ rest = rest' := by
  induction first generalizing second with
  | nil =>
      cases second with
      | nil => simpa using htext
      | cons byte second =>
          obtain ⟨head, tail, hescape, hne⟩ := escape_head byte
          simp only [List.flatMap_nil, List.nil_append, List.flatMap_cons, hescape,
            List.cons_append, List.cons.injEq] at htext
          exact absurd htext.1.symm hne
  | cons byte first ih =>
      cases second with
      | nil =>
          obtain ⟨head, tail, hescape, hne⟩ := escape_head byte
          simp only [List.flatMap_nil, List.nil_append, List.flatMap_cons, hescape,
            List.cons_append, List.cons.injEq] at htext
          exact absurd htext.1 hne
      | cons byte' second =>
          simp only [List.flatMap_cons, List.append_assoc] at htext
          have hread := unescape_escape byte (first.flatMap escape ++ 34 :: rest)
          rw [htext, unescape_escape] at hread
          simp only [Option.some.injEq, Prod.mk.injEq] at hread
          obtain ⟨rfl, htail⟩ := hread
          obtain ⟨rfl, rfl⟩ := ih htail.symm
          exact ⟨rfl, rfl⟩

theorem renderText_inj {first second : String} {rest rest' : Bytes}
    (htext : renderText first ++ rest = renderText second ++ rest') :
    first = second ∧ rest = rest' := by
  simp only [renderText, List.cons_append, List.append_assoc, List.nil_append,
    List.cons.injEq, true_and] at htext
  obtain ⟨hbytes, hrest⟩ := flatMap_escape_inj htext
  exact ⟨Bytes.ofText_injective hbytes, hrest⟩

def IsDigit (byte : UInt8) : Prop := 48 ≤ byte ∧ byte ≤ 57

/-- Text after which a number cannot go on. -/
def Delimited (text : Bytes) : Prop := ∀ byte ∈ text.head?, ¬ IsDigit byte

theorem renderNat_digits (value : Nat) : ∀ byte ∈ renderNat value, IsDigit byte := by
  unfold renderNat
  split_ifs with hzero
  · simp [IsDigit]
  · intro byte hbyte
    obtain ⟨digit, hdigit, rfl⟩ := List.mem_map.mp hbyte
    have hlt : digit < 10 := Nat.digits_lt_base (by decide) (List.mem_reverse.mp hdigit)
    constructor <;> interval_cases digit <;> decide

theorem renderNat_ne_nil (value : Nat) : renderNat value ≠ [] := by
  unfold renderNat
  split_ifs with hzero
  · simp
  · simp [Nat.digits_ne_nil_iff_ne_zero, hzero]

theorem digit_byte_inj {first second : Nat} (hfirst : first < 10) (hsecond : second < 10)
    (hbyte : UInt8.ofNat (48 + first) = UInt8.ofNat (48 + second)) : first = second := by
  have hnat := congrArg UInt8.toNat hbyte
  simp only [UInt8.toNat_ofNat', Nat.reducePow] at hnat
  omega

theorem map_digit_inj (first second : List Nat) (hfirst : ∀ digit ∈ first, digit < 10)
    (hsecond : ∀ digit ∈ second, digit < 10)
    (hmap : first.map (fun digit => UInt8.ofNat (48 + digit)) =
      second.map (fun digit => UInt8.ofNat (48 + digit))) : first = second := by
  induction first generalizing second with
  | nil => simpa using hmap.symm
  | cons digit first ih =>
      cases second with
      | nil => simp at hmap
      | cons digit' second =>
          simp only [List.map_cons, List.cons.injEq] at hmap
          have hdigit := digit_byte_inj (hfirst digit List.mem_cons_self)
            (hsecond digit' List.mem_cons_self) hmap.1
          have htail := ih second (fun d hd => hfirst d (List.mem_cons_of_mem _ hd))
            (fun d hd => hsecond d (List.mem_cons_of_mem _ hd)) hmap.2
          rw [hdigit, htail]

theorem renderNat_injective : Function.Injective renderNat := by
  have hbase : ∀ value : Nat, ∀ digit ∈ (Nat.digits 10 value).reverse, digit < 10 :=
    fun value digit hdigit =>
      Nat.digits_lt_base (by decide) (List.mem_reverse.mp hdigit)
  -- Zero prints as a digit that no other number starts with.
  have hzero : ∀ value : Nat, value ≠ 0 → renderNat value ≠ [48] := by
    intro value hvalue heq
    rw [renderNat, if_neg hvalue] at heq
    have hdigits := map_digit_inj _ [0] (hbase value) (by simp) heq
    rw [List.reverse_eq_iff] at hdigits
    have := Nat.ofDigits_digits 10 value
    rw [hdigits] at this
    simp at this
    exact hvalue this.symm
  intro first second heq
  by_cases hfirst : first = 0 <;> by_cases hsecond : second = 0
  · rw [hfirst, hsecond]
  · subst hfirst
    exact absurd heq.symm (hzero second hsecond)
  · subst hsecond
    exact absurd heq (hzero first hfirst)
  · rw [renderNat, renderNat, if_neg hfirst, if_neg hsecond] at heq
    have hdigits := map_digit_inj _ _ (hbase first) (hbase second) heq
    exact Nat.digits_inj_iff.mp (List.reverse_inj.mp hdigits)

/-- Two runs of digits that end at the same kind of boundary agree. -/
theorem digits_append_inj {first second rest rest' : Bytes}
    (hfirst : ∀ byte ∈ first, IsDigit byte) (hsecond : ∀ byte ∈ second, IsDigit byte)
    (hrest : Delimited rest) (hrest' : Delimited rest')
    (htext : first ++ rest = second ++ rest') : first = second ∧ rest = rest' := by
  induction first generalizing second with
  | nil =>
      cases second with
      | nil => exact ⟨rfl, by simpa using htext⟩
      | cons byte second =>
          simp only [List.nil_append, List.cons_append] at htext
          exact absurd (hsecond byte List.mem_cons_self) (hrest byte (by simp [htext]))
  | cons byte first ih =>
      cases second with
      | nil =>
          simp only [List.nil_append, List.cons_append] at htext
          exact absurd (hfirst byte List.mem_cons_self) (hrest' byte (by simp [← htext]))
      | cons byte' second =>
          simp only [List.cons_append, List.cons.injEq] at htext
          obtain ⟨htail, hrests⟩ := ih (fun b hb => hfirst b (List.mem_cons_of_mem _ hb))
            (fun b hb => hsecond b (List.mem_cons_of_mem _ hb)) htext.2
          exact ⟨by rw [htext.1, htail], hrests⟩

theorem renderNat_inj {first second : Nat} {rest rest' : Bytes} (hrest : Delimited rest)
    (hrest' : Delimited rest') (htext : renderNat first ++ rest = renderNat second ++ rest') :
    first = second ∧ rest = rest' := by
  obtain ⟨hnat, hrests⟩ := digits_append_inj (renderNat_digits first) (renderNat_digits second)
    hrest hrest' htext
  exact ⟨renderNat_injective hnat, hrests⟩

/-- The kind of a value, as far as its first byte tells it. -/
def kind : Json → Nat
  | .null => 0
  | .bool true => 1
  | .bool false => 2
  | .num _ => 3
  | .str _ => 4
  | .arr _ => 5
  | .obj _ => 6
  | .other => 7

/-- The kind a first byte announces; brackets that close, commas and colons announce none. -/
def announced (byte : UInt8) : Option Nat :=
  if byte = 110 then some 0
  else if byte = 116 then some 1
  else if byte = 102 then some 2
  else if byte = 34 then some 4
  else if byte = 91 then some 5
  else if byte = 123 then some 6
  else if byte = 45 then some 7
  else if 48 ≤ byte ∧ byte ≤ 57 then some 3
  else none

theorem announced_digit {byte : UInt8} (hdigit : IsDigit byte) : announced byte = some 3 := by
  obtain ⟨hlow, hhigh⟩ := hdigit
  unfold announced
  split_ifs with h110 h116 h102 h34 h91 h123 h45 hrange
  all_goals first
    | rfl
    | exact absurd ⟨hlow, hhigh⟩ hrange
    | (subst byte; revert hlow hhigh; decide)

theorem render_head (value : Json) :
    ∃ first rest, render value = first :: rest ∧ announced first = some (kind value) := by
  cases value with
  | null => exact ⟨_, _, rfl, rfl⟩
  | bool flag => cases flag <;> exact ⟨_, _, rfl, rfl⟩
  | num value =>
      cases hnat : renderNat value with
      | nil => exact absurd hnat (renderNat_ne_nil value)
      | cons first rest =>
          exact ⟨first, rest, by rw [render, hnat],
            announced_digit (renderNat_digits value first (by simp [hnat]))⟩
  | other => exact ⟨_, _, rfl, rfl⟩
  | str text => exact ⟨_, _, rfl, rfl⟩
  | arr items => cases items <;> exact ⟨_, _, rfl, rfl⟩
  | obj fields => cases fields <;> exact ⟨_, _, rfl, rfl⟩

/-- No value starts with a byte that announces none. -/
theorem render_ne_cons {value : Json} {byte : UInt8} {text rest : Bytes}
    (hbyte : announced byte = none) : render value ++ text ≠ byte :: rest := by
  obtain ⟨first, tail, hrender, hkind⟩ := render_head value
  intro htext
  rw [hrender, List.cons_append, List.cons.injEq] at htext
  rw [htext.1, hbyte] at hkind
  cases hkind

theorem kind_eq_of_render {first second : Json} {rest rest' : Bytes}
    (htext : render first ++ rest = render second ++ rest') : kind first = kind second := by
  obtain ⟨byte, tail, hrender, hkind⟩ := render_head first
  obtain ⟨byte', tail', hrender', hkind'⟩ := render_head second
  rw [hrender, hrender', List.cons_append, List.cons_append, List.cons.injEq] at htext
  rw [htext.1, hkind'] at hkind
  exact (Option.some.inj hkind).symm

theorem delimited_renderItems (items : List Json) (rest : Bytes) :
    Delimited (renderItems items ++ rest) := by
  cases items <;> simp [renderItems, Delimited, IsDigit]

theorem delimited_renderFields (fields : List (String × Json)) (rest : Bytes) :
    Delimited (renderFields fields ++ rest) := by
  rcases fields with _ | ⟨⟨name, value⟩, fields⟩ <;> simp [renderFields, Delimited, IsDigit]

mutual

/-- Whatever surrounds it, the text of a value has one reading. -/
theorem render_inj : ∀ (first second : Json) {rest rest' : Bytes}, Delimited rest →
    Delimited rest' → render first ++ rest = render second ++ rest' →
    first = second ∧ rest = rest'
  | .null, second, rest, rest', _, _, htext => by
      have hkind := kind_eq_of_render htext
      rcases second with _ | (_ | _) | _ | _ | _ | _ | _ <;> simp [kind] at hkind
      exact ⟨rfl, by simpa [render] using htext⟩
  | .bool flag, second, rest, rest', _, _, htext => by
      have hkind := kind_eq_of_render htext
      cases flag <;> rcases second with _ | (_ | _) | _ | _ | _ | _ | _ <;>
        simp [kind] at hkind
      · exact ⟨rfl, by simpa [render] using htext⟩
      · exact ⟨rfl, by simpa [render] using htext⟩
  | .num value, second, rest, rest', hrest, hrest', htext => by
      have hkind := kind_eq_of_render htext
      rcases second with _ | (_ | _) | value' | _ | _ | _ | _ <;> simp [kind] at hkind
      obtain ⟨rfl, hrests⟩ := renderNat_inj hrest hrest' (by simpa only [render] using htext)
      exact ⟨rfl, hrests⟩
  | .other, second, rest, rest', _, _, htext => by
      have hkind := kind_eq_of_render htext
      rcases second with _ | (_ | _) | _ | _ | _ | _ | _ <;> simp [kind] at hkind
      exact ⟨rfl, by simpa [render] using htext⟩
  | .str text, second, rest, rest', _, _, htext => by
      have hkind := kind_eq_of_render htext
      rcases second with _ | (_ | _) | _ | _ | text' | _ | _ <;> simp [kind] at hkind
      obtain ⟨rfl, hrests⟩ := renderText_inj (by simpa only [render] using htext)
      exact ⟨rfl, hrests⟩
  | .arr [], second, rest, rest', _, _, htext => by
      have hkind := kind_eq_of_render htext
      rcases second with _ | (_ | _) | _ | _ | _ | items' | _ <;> simp [kind] at hkind
      cases items' with
      | nil => exact ⟨rfl, by simpa [render] using htext⟩
      | cons item' items' =>
          simp only [render, List.cons_append, List.nil_append, List.append_assoc,
            List.cons.injEq, true_and] at htext
          exact absurd htext.symm (render_ne_cons (by decide))
  | .arr (item :: items), second, rest, rest', _, _, htext => by
      have hkind := kind_eq_of_render htext
      rcases second with _ | (_ | _) | _ | _ | _ | items' | _ <;> simp [kind] at hkind
      cases items' with
      | nil =>
          simp only [render, List.cons_append, List.nil_append, List.append_assoc,
            List.cons.injEq, true_and] at htext
          exact absurd htext (render_ne_cons (by decide))
      | cons item' items' =>
          simp only [render, List.cons_append, List.append_assoc, List.cons.injEq,
            true_and] at htext
          obtain ⟨rfl, htail⟩ := render_inj item item' (delimited_renderItems _ _)
            (delimited_renderItems _ _) htext
          obtain ⟨rfl, hrests⟩ := renderItems_inj items items' htail
          exact ⟨rfl, hrests⟩
  | .obj [], second, rest, rest', _, _, htext => by
      have hkind := kind_eq_of_render htext
      rcases second with _ | (_ | _) | _ | _ | _ | _ | fields' <;> simp [kind] at hkind
      rcases fields' with _ | ⟨⟨name', value'⟩, fields'⟩
      · exact ⟨rfl, by simpa [render] using htext⟩
      · simp [render, renderText] at htext
  | .obj ((name, value) :: fields), second, rest, rest', _, _, htext => by
      have hkind := kind_eq_of_render htext
      rcases second with _ | (_ | _) | _ | _ | _ | _ | fields' <;> simp [kind] at hkind
      rcases fields' with _ | ⟨⟨name', value'⟩, fields'⟩
      · simp [render, renderText] at htext
      · simp only [render, List.cons_append, List.append_assoc, List.cons.injEq,
          true_and] at htext
        obtain ⟨rfl, hvalue⟩ := renderText_inj htext
        simp only [List.cons.injEq, true_and] at hvalue
        obtain ⟨rfl, htail⟩ := render_inj value value' (delimited_renderFields _ _)
          (delimited_renderFields _ _) hvalue
        obtain ⟨rfl, hrests⟩ := renderFields_inj fields fields' htail
        exact ⟨rfl, hrests⟩

theorem renderItems_inj : ∀ (first second : List Json) {rest rest' : Bytes},
    renderItems first ++ rest = renderItems second ++ rest' → first = second ∧ rest = rest'
  | [], [], rest, rest', htext => ⟨rfl, by simpa [renderItems] using htext⟩
  | [], _ :: _, rest, rest', htext => by simp [renderItems] at htext
  | _ :: _, [], rest, rest', htext => by simp [renderItems] at htext
  | item :: items, item' :: items', rest, rest', htext => by
      simp only [renderItems, List.cons_append, List.append_assoc, List.cons.injEq,
        true_and] at htext
      obtain ⟨rfl, htail⟩ := render_inj item item' (delimited_renderItems _ _)
        (delimited_renderItems _ _) htext
      obtain ⟨rfl, hrests⟩ := renderItems_inj items items' htail
      exact ⟨rfl, hrests⟩

theorem renderFields_inj : ∀ (first second : List (String × Json)) {rest rest' : Bytes},
    renderFields first ++ rest = renderFields second ++ rest' → first = second ∧ rest = rest'
  | [], [], rest, rest', htext => ⟨rfl, by simpa [renderFields] using htext⟩
  | [], (_, _) :: _, rest, rest', htext => by simp [renderFields] at htext
  | (_, _) :: _, [], rest, rest', htext => by simp [renderFields] at htext
  | (name, value) :: fields, (name', value') :: fields', rest, rest', htext => by
      simp only [renderFields, List.cons_append, List.append_assoc, List.cons.injEq,
        true_and] at htext
      obtain ⟨rfl, hvalue⟩ := renderText_inj htext
      simp only [List.cons.injEq, true_and] at hvalue
      obtain ⟨rfl, htail⟩ := render_inj value value' (delimited_renderFields _ _)
        (delimited_renderFields _ _) hvalue
      obtain ⟨rfl, hrests⟩ := renderFields_inj fields fields' htail
      exact ⟨rfl, hrests⟩

end

theorem render_injective : Function.Injective render := by
  intro first second htext
  have hnil : Delimited [] := by simp [Delimited]
  have hempty : render first ++ [] = render second ++ [] := by simpa using htext
  exact (render_inj first second hnil hnil hempty).1

/-- An object ends at its closing bracket, so any text may follow it. -/
theorem render_obj_append_inj {first second : List (String × Json)} {rest rest' : Bytes}
    (htext : render (.obj first) ++ rest = render (.obj second) ++ rest') :
    first = second ∧ rest = rest' := by
  rcases first with _ | ⟨⟨name, value⟩, fields⟩ <;>
    rcases second with _ | ⟨⟨name', value'⟩, fields'⟩
  · exact ⟨rfl, by simpa [render] using htext⟩
  · simp [render, renderText] at htext
  · simp [render, renderText] at htext
  · have htail : renderFields ((name, value) :: fields) ++ rest =
        renderFields ((name', value') :: fields') ++ rest' := by
      simpa only [render, renderFields, List.cons_append, List.cons.injEq, true_and] using htext
    exact renderFields_inj _ _ htail

/-! ## Values a parser reads back -/

mutual

/-- Within a nesting budget, and with numbers of 64 bits. -/
def readable : Nat → Json → Bool
  | _, .null | _, .bool _ | _, .other | _, .str _ => true
  | _, .num value => value < 2 ^ 64
  | 0, .arr _ | 0, .obj _ => false
  | depth + 1, .arr items => readableItems depth items
  | depth + 1, .obj fields => readableFields depth fields

def readableItems : Nat → List Json → Bool
  | _, [] => true
  | depth, item :: items => readable depth item && readableItems depth items

def readableFields : Nat → List (String × Json) → Bool
  | _, [] => true
  | depth, (_, value) :: fields => readable depth value && readableFields depth fields

end

end Json

end Foundation
