import GhostLayer.Foundation.Json

/-! # Messages over HTTP

A message is a first line and headers, each with a line break behind it, an empty
line, and as many bytes as a header announces. What is written so is read back,
whatever the bytes behind the empty line are.
-/

namespace Foundation

namespace Http

/-! ## Lines -/

def lineBreak : Bytes := [13, 10]

/-- The first line, and what is behind its break. -/
def readLine : Bytes → Option (Bytes × Bytes)
  | [] => none
  | byte :: rest =>
      if byte :: rest.take 1 = lineBreak then some ([], rest.drop 1)
      else (readLine rest).map fun split => (byte :: split.1, split.2)

/-- The lines before an empty one, and what is behind it. -/
def readLines : Nat → Bytes → Option (List Bytes × Bytes)
  | 0, _ => none
  | fuel + 1, bytes =>
      (readLine bytes).bind fun split =>
        if split.1 = [] then some ([], split.2)
        else (readLines fuel split.2).map fun lines => (split.1 :: lines.1, lines.2)

theorem readLine_append {line : Bytes} (hclean : 13 ∉ line) (rest : Bytes) :
    readLine (line ++ (lineBreak ++ rest)) = some (line, rest) := by
  induction line with
  | nil => rfl
  | cons byte line ih =>
      obtain ⟨hbyte, hline⟩ := not_or.mp (mt List.mem_cons.mpr hclean)
      have hinside : byte :: (line ++ (lineBreak ++ rest)).take 1 ≠ lineBreak :=
        fun hbreak => hbyte (List.cons.inj hbreak).1.symm
      rw [List.cons_append, readLine, if_neg hinside, ih hline]
      rfl

theorem readLines_append {lines : List Bytes} (hclean : ∀ line ∈ lines, 13 ∉ line ∧ line ≠ [])
    (rest : Bytes) {fuel : Nat} (hfuel : lines.length < fuel) :
    readLines fuel (lines.flatMap (· ++ lineBreak) ++ (lineBreak ++ rest)) =
      some (lines, rest) := by
  induction lines generalizing fuel with
  | nil =>
      obtain ⟨fuel, rfl⟩ := Nat.exists_eq_add_of_lt hfuel
      rfl
  | cons line lines ih =>
      obtain ⟨⟨hline, hsome⟩, hlines⟩ := List.forall_mem_cons.mp hclean
      cases fuel with
      | zero => exact absurd hfuel (Nat.not_lt_zero _)
      | succ fuel =>
          have hrest := ih hlines (Nat.lt_of_succ_lt_succ hfuel)
          rw [List.flatMap_cons, List.append_assoc, List.append_assoc, readLines,
            readLine_append hline, Option.bind_some, if_neg hsome, hrest]
          rfl

/-! ## Numbers -/

/-- The number that decimal digits denote. -/
def valueOf (text : Bytes) : Nat :=
  text.foldl (fun total byte => total * 10 + (byte.toNat - 48)) 0

def readNat (text : Bytes) : Option Nat :=
  if text = [] then none
  else if text.all fun byte => Nat.ble 48 byte.toNat && Nat.ble byte.toNat 57 then
    some (valueOf text)
  else none

theorem valueOf_append (text : Bytes) (byte : UInt8) :
    valueOf (text ++ [byte]) = valueOf text * 10 + (byte.toNat - 48) := by
  simp [valueOf]

theorem valueOf_digits {digits : List Nat} (hdigits : ∀ digit ∈ digits, digit < 10) :
    valueOf (digits.reverse.map fun digit => UInt8.ofNat (48 + digit)) =
      Nat.ofDigits 10 digits := by
  induction digits with
  | nil => rfl
  | cons digit digits ih =>
      obtain ⟨hdigit, hrest⟩ := List.forall_mem_cons.mp hdigits
      have hbyte : (UInt8.ofNat (48 + digit)).toNat = 48 + digit := by
        rw [UInt8.toNat_ofNat', Nat.mod_eq_of_lt (by omega)]
      rw [List.reverse_cons, List.map_append, List.map_singleton, valueOf_append, ih hrest, hbyte,
        Nat.ofDigits_cons]
      omega

/-- A number is read back from its digits. -/
theorem readNat_renderNat (value : Nat) : readNat (Json.renderNat value) = some value := by
  have hdigits : ((Json.renderNat value).all fun byte =>
      Nat.ble 48 byte.toNat && Nat.ble byte.toNat 57) = true := by
    rw [List.all_eq_true]
    intro byte hbyte
    obtain ⟨hlow, hhigh⟩ := Json.renderNat_digits value byte hbyte
    rw [Bool.and_eq_true, Nat.ble_eq, Nat.ble_eq]
    exact ⟨UInt8.le_iff_toNat_le.mp hlow, UInt8.le_iff_toNat_le.mp hhigh⟩
  rw [readNat, if_neg (Json.renderNat_ne_nil value), if_pos hdigits, Option.some_inj]
  unfold Json.renderNat
  split_ifs with hzero
  · rw [hzero]
    rfl
  · rw [valueOf_digits fun digit hdigit => Nat.digits_lt_base (by decide) hdigit,
      Nat.ofDigits_digits]

/-! ## Messages -/

structure Message where
  firstLine : Bytes
  headers : List Bytes
  body : Bytes

namespace Message

def render (message : Message) : Bytes :=
  message.firstLine ++ (lineBreak ++ (message.headers.flatMap (· ++ lineBreak) ++
    (lineBreak ++ message.body)))

end Message

/-- The number behind the name of a header. -/
def announced (name : Bytes) (headers : List Bytes) : Option Nat :=
  headers.findSome? fun header =>
    if name <+: header then readNat (header.drop name.length) else none

/-- A message, and what is behind it. The header of that name announces the bytes of the body. -/
def read (name bytes : Bytes) : Option (Message × Bytes) :=
  (readLine bytes).bind fun first =>
    (readLines first.2.length first.2).bind fun lines =>
      (announced name lines.1).bind fun length =>
        if length ≤ lines.2.length then
          some (⟨first.1, lines.1, lines.2.take length⟩, lines.2.drop length)
        else none

/-- Nothing in the head of a message ends a line, and the body is as long as it is announced. -/
structure Message.Framed (name : Bytes) (message : Message) : Prop where
  firstLine : 13 ∉ message.firstLine
  headers : ∀ header ∈ message.headers, 13 ∉ header ∧ header ≠ []
  announced : announced name message.headers = some message.body.length

theorem length_le_flatMap (lines : List Bytes) :
    lines.length ≤ (lines.flatMap (· ++ lineBreak)).length := by
  induction lines with
  | nil => rfl
  | cons line lines ih =>
      rw [List.flatMap_cons, List.length_append, List.length_append, List.length_cons]
      have hbreak : lineBreak.length = 2 := rfl
      omega

/-- A message is read back, whatever is in its body, and nothing of what is behind it. -/
theorem Message.Framed.read_render {name : Bytes} {message : Message}
    (hframed : message.Framed name) (behind : Bytes) :
    read name (message.render ++ behind) = some (message, behind) := by
  have hline : readLine (message.render ++ behind) =
      some (message.firstLine, message.headers.flatMap (· ++ lineBreak) ++
        (lineBreak ++ (message.body ++ behind))) := by
    rw [← readLine_append hframed.firstLine]
    simp [render]
  have hfuel : message.headers.length < (message.headers.flatMap (· ++ lineBreak) ++
      (lineBreak ++ (message.body ++ behind))).length := by
    have hlength := length_le_flatMap message.headers
    have hbreak : lineBreak.length = 2 := rfl
    rw [List.length_append, List.length_append]
    omega
  have hlong : message.body.length ≤ (message.body ++ behind).length := by
    rw [List.length_append]
    exact Nat.le_add_right _ _
  rw [Http.read, hline, Option.bind_some, readLines_append hframed.headers _ hfuel,
    Option.bind_some, hframed.announced, Option.bind_some, if_pos hlong, List.take_left,
    List.drop_left]

end Http

end Foundation
