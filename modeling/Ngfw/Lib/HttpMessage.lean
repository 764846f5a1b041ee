import Ngfw.Lib.Text

/-!
# HTTP/1.1 messages

A request as bytes and back: a request line split at its spaces, field lines up to the empty line, and a body of the
length that Content-Length gives.
-/

namespace Ngfw.Lib.HttpMessage

def textBytes (s : String) : List UInt8 :=
  s.toList.flatMap String.utf8EncodeChar

abbrev Fields := List (List UInt8 × List UInt8)

structure Message where
  method : List UInt8
  path : List UInt8
  query : List UInt8
  fields : Fields
  body : List UInt8
  deriving DecidableEq

def space : UInt8 := 32
def colon : UInt8 := 58
def questionMark : UInt8 := 63
def carriageReturn : UInt8 := 13
def lineFeed : UInt8 := 10

def crlf : List UInt8 := [carriageReturn, lineFeed]

def version : List UInt8 := textBytes "HTTP/1.1"

def fieldLine (field : List UInt8 × List UInt8) : List UInt8 :=
  field.1 ++ [colon, space] ++ field.2 ++ crlf

def render (requestLine : List UInt8) (fields : Fields) (body : List UInt8) : List UInt8 :=
  requestLine ++ crlf ++ fields.flatMap fieldLine ++ crlf ++ body

/-! ## Reading -/

def cut (separator : UInt8) (text : List UInt8) : List UInt8 × List UInt8 :=
  (text.takeWhile (· ≠ separator), (text.dropWhile (· ≠ separator)).drop 1)

def cutLine : List UInt8 → Option (List UInt8 × List UInt8)
  | [] => none
  | byte :: rest =>
    if byte = carriageReturn ∧ rest.head? = some lineFeed then some ([], rest.drop 1)
    else (cutLine rest).map fun (line, after) => (byte :: line, after)

def parseField (line : List UInt8) : Option (List UInt8 × List UInt8) :=
  if colon ∈ line then
    match cut colon line with
    | (name, first :: value) => some (name, if first = space then value else first :: value)
    | (name, []) => some (name, [])
  else none

def parseFields : Nat → List UInt8 → Option (Fields × List UInt8)
  | 0, _ => none
  | fuel + 1, text =>
    match cutLine text with
    | none => none
    | some (line, rest) =>
      if line = [] then some ([], rest)
      else match parseField line, parseFields fuel rest with
        | some field, some (fields, body) => some (field :: fields, body)
        | _, _ => none

def lowerByte (byte : UInt8) : UInt8 :=
  if 65 ≤ byte.toNat ∧ byte.toNat ≤ 90 then byte + 32 else byte

def contentLength (fields : Fields) : Option Nat :=
  match fields.find? fun field => field.1.map lowerByte = textBytes "content-length" with
  | none => none
  | some field => Text.digits (field.2.map fun byte => Char.ofNat byte.toNat)

def parse (text : List UInt8) : Option Message :=
  match cutLine text with
  | none => none
  | some (line, rest) =>
    let (method, behind) := cut space line
    let (target, protocol) := cut space behind
    if protocol ≠ version then none
    else match parseFields rest.length rest with
      | none => none
      | some (fields, body) =>
        match contentLength fields with
        | none => none
        | some length =>
          if body.length < length then none
          else some
            { method, path := (cut questionMark target).1, query := (cut questionMark target).2, fields
              body := body.take length }

theorem length_render (requestLine : List UInt8) (fields : Fields) (body : List UInt8) :
    (render requestLine fields body).length =
      requestLine.length + 4 + (fields.map fun field => field.1.length + field.2.length + 4).sum + body.length := by
  have lines : (fields.flatMap fieldLine).length =
      (fields.map fun field => field.1.length + field.2.length + 4).sum := by
    rw [List.length_flatMap]
    congr 1
    refine List.map_congr_left fun field _ => ?_
    simp only [fieldLine, crlf, List.length_append, List.length_cons, List.length_nil]
    omega
  simp only [render, crlf, List.length_append, List.length_cons, List.length_nil, lines]
  omega

/-! ## The bytes of a text -/

variable {s : String} {byte separator : UInt8} {fields : Fields}

theorem mem_utf8EncodeChar {c : Char} (small : byte.toNat < 128) :
    byte ∈ String.utf8EncodeChar c ↔ byte.toNat = c.toNat := by
  have code : c.val.toNat = c.toNat := rfl
  unfold String.utf8EncodeChar
  simp only [code]
  split_ifs with one two three <;>
    simp only [List.mem_cons, List.not_mem_nil, or_false, ← UInt8.toNat_inj, UInt8.toNat_ofNat'] <;> omega

theorem mem_textBytes (small : byte.toNat < 128) : byte ∈ textBytes s ↔ Char.ofNat byte.toNat ∈ s.toList := by
  have valid : byte.toNat.isValidChar := Or.inl (by omega)
  simp only [textBytes, List.mem_flatMap, mem_utf8EncodeChar small]
  constructor
  · rintro ⟨c, member, same⟩
    rwa [same, Char.ofNat_toNat]
  · intro member
    have code : (Char.ofNat byte.toNat).toNat = byte.toNat := by
      rw [Char.ofNat, dif_pos valid]
      rfl
    exact ⟨_, member, code.symm⟩

theorem length_textBytes (s : String) : (textBytes s).length = Text.byteLength s.toList := by
  simp [textBytes, Text.byteLength, List.length_flatMap, String.length_utf8EncodeChar]

theorem textBytes_append (s t : String) : textBytes (s ++ t) = textBytes s ++ textBytes t := by
  simp [textBytes]

theorem textBytes_ascii (ascii : ∀ c ∈ s.toList, c.toNat < 128) :
    textBytes s = s.toList.map fun c => UInt8.ofNat c.toNat := by
  unfold textBytes
  generalize s.toList = l at ascii
  induction l with
  | nil => rfl
  | cons c l ih =>
    have one := ascii c List.mem_cons_self
    have encoded : String.utf8EncodeChar c = [UInt8.ofNat c.toNat] := by
      unfold String.utf8EncodeChar
      exact if_pos (show c.toNat ≤ 127 by omega)
    rw [List.flatMap_cons, encoded, ih fun d member => ascii d (List.mem_cons_of_mem c member)]
    rfl

theorem char_textBytes (ascii : ∀ c ∈ s.toList, c.toNat < 128) :
    (textBytes s).map (fun byte => Char.ofNat byte.toNat) = s.toList := by
  have same : ∀ c ∈ s.toList,
      ((fun byte => Char.ofNat byte.toNat) ∘ fun c : Char => UInt8.ofNat c.toNat) c = id c := by
    intro c member
    have small : c.toNat < 2 ^ 8 := Nat.lt_trans (ascii c member) (by decide)
    simp only [Function.comp_apply, UInt8.toNat_ofNat', Nat.mod_eq_of_lt small, Char.ofNat_toNat, id]
  rw [textBytes_ascii ascii, List.map_map, List.map_congr_left same, List.map_id]

theorem ofNat_lowerByte {n : Nat} (small : n < 128) :
    Char.ofNat (lowerByte (UInt8.ofNat n)).toNat = (Char.ofNat n).toLower := by
  revert n
  decide

/-! ## Reading what was written -/

theorem cut_append {before : List UInt8} (absent : separator ∉ before) (after : List UInt8) :
    cut separator (before ++ separator :: after) = (before, after) := by
  have passes : ∀ byte ∈ before, decide (byte ≠ separator) = true := by
    intro byte member
    rw [decide_eq_true_eq]
    rintro rfl
    exact absent member
  rw [cut, List.takeWhile_append_of_pos passes, List.dropWhile_append_of_pos passes]
  simp

theorem cut_of_notMem {text : List UInt8} (absent : separator ∉ text) : cut separator text = (text, []) := by
  have passes : ∀ byte ∈ text, decide (byte ≠ separator) = true := by
    intro byte member
    rw [decide_eq_true_eq]
    rintro rfl
    exact absent member
  rw [cut, List.takeWhile_eq_self_iff.mpr passes, List.dropWhile_eq_nil_iff.mpr passes]
  rfl

theorem notMem_cut (separator : UInt8) (text : List UInt8) : separator ∉ (cut separator text).1 := by
  intro member
  simpa using List.mem_takeWhile_imp member

theorem cutLine_append {line : List UInt8} (single : carriageReturn ∉ line) (rest : List UInt8) :
    cutLine (line ++ crlf ++ rest) = some (line, rest) := by
  induction line with
  | nil => simp [cutLine, crlf]
  | cons byte line ih =>
    simp only [List.mem_cons, not_or] at single
    rw [List.cons_append, List.cons_append, cutLine, if_neg fun starts => single.1 starts.1.symm, ih single.2]
    rfl

theorem carriageReturn_ne_colon : carriageReturn ≠ colon := by decide

theorem carriageReturn_ne_space : carriageReturn ≠ space := by decide

structure Clean (field : List UInt8 × List UInt8) : Prop where
  name : colon ∉ field.1 ∧ carriageReturn ∉ field.1
  value : carriageReturn ∉ field.2

theorem parseField_fieldLine {field : List UInt8 × List UInt8} (clean : Clean field) :
    parseField (field.1 ++ [colon, space] ++ field.2) = some field := by
  have text : field.1 ++ [colon, space] ++ field.2 = field.1 ++ colon :: (space :: field.2) := by simp
  rw [text, parseField, if_pos (by simp), cut_append clean.name.1]
  simp

theorem parseFields_lines (clean : ∀ field ∈ fields, Clean field) (body : List UInt8) {fuel : Nat}
    (enough : fields.length < fuel) :
    parseFields fuel (fields.flatMap fieldLine ++ crlf ++ body) = some (fields, body) := by
  induction fields generalizing fuel with
  | nil =>
    obtain ⟨fuel, rfl⟩ := Nat.exists_eq_succ_of_ne_zero (Nat.ne_of_gt enough)
    have line := cutLine_append List.not_mem_nil body
    simp only [List.nil_append] at line
    simp [parseFields, line]
  | cons field fields ih =>
    obtain ⟨fuel, rfl⟩ := Nat.exists_eq_succ_of_ne_zero (Nat.ne_of_gt (Nat.zero_lt_of_lt enough))
    have own := clean field List.mem_cons_self
    have single : carriageReturn ∉ field.1 ++ [colon, space] ++ field.2 := by
      simp [own.name.2, own.value, carriageReturn_ne_colon, carriageReturn_ne_space]
    have line := cutLine_append single (fields.flatMap fieldLine ++ crlf ++ body)
    have fewer : fields.length < fuel := by simpa using enough
    have others := ih (fun other member => clean other (List.mem_cons_of_mem _ member)) fewer
    have text : (field :: fields).flatMap fieldLine ++ crlf ++ body =
        field.1 ++ [colon, space] ++ field.2 ++ crlf ++ (fields.flatMap fieldLine ++ crlf ++ body) := by
      simp [fieldLine]
    have nonempty : field.1 ++ [colon, space] ++ field.2 ≠ [] := by simp
    rw [text, parseFields, line]
    simp only [if_neg nonempty, parseField_fieldLine own, others]

theorem length_lt_flatMap (fields : Fields) (body : List UInt8) :
    fields.length < (fields.flatMap fieldLine ++ crlf ++ body).length := by
  induction fields with
  | nil => simp [crlf]
  | cons field fields ih =>
    simp only [List.length_append, List.flatMap_cons, List.length_cons, fieldLine, crlf] at ih ⊢
    omega

theorem protocol_ne_version {target : List UInt8} (spaced : space ∈ target) :
    (cut space (target ++ space :: version)).2 ≠ version := by
  obtain ⟨before, after, rfl, absent⟩ := List.eq_append_cons_of_mem spaced
  rw [List.append_assoc, List.cons_append, cut_append absent]
  intro same
  have lengths := congrArg List.length same
  simp only [List.length_append, List.length_cons] at lengths
  omega

theorem parse_render {method target : List UInt8} {body : List UInt8}
    (methodPlain : space ∉ method ∧ carriageReturn ∉ method) (targetPlain : carriageReturn ∉ target)
    (clean : ∀ field ∈ fields, Clean field) (length : contentLength fields = some body.length) :
    parse (render (method ++ space :: (target ++ space :: version)) fields body) =
      if space ∈ target then none
      else some ⟨method, (cut questionMark target).1, (cut questionMark target).2, fields, body⟩ := by
  have single : carriageReturn ∉ method ++ space :: (target ++ space :: version) := by
    have plainVersion : carriageReturn ∉ version := by decide
    simp [methodPlain.2, targetPlain, plainVersion, carriageReturn_ne_space]
  have line := cutLine_append single (fields.flatMap fieldLine ++ crlf ++ body)
  have read := parseFields_lines clean body (length_lt_flatMap fields body)
  have text : render (method ++ space :: (target ++ space :: version)) fields body =
      method ++ space :: (target ++ space :: version) ++ crlf ++ (fields.flatMap fieldLine ++ crlf ++ body) := by
    simp [render]
  rw [text, parse, line]
  simp only [cut_append methodPlain.1]
  by_cases spaced : space ∈ target
  · rw [if_pos spaced, if_pos (protocol_ne_version spaced)]
  · rw [if_neg spaced, cut_append spaced]
    simp only [ne_eq, not_true_eq_false, if_false, read, length, lt_irrefl, List.take_length]

end Ngfw.Lib.HttpMessage
