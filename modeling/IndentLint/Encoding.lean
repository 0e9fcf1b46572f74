import IndentLint.Text.Quoted
import IndentLint.Text.Units

/-! Codecs and how they are found by name, with the encodings that are written out here. A byte
sequence that is no text names the bytes at fault. -/
namespace IndentLint

inductive Encoding where
  | utf8
  | utf8Signed
  | latin1
  | ascii
  | windows1252
  | utf16
  deriving DecidableEq, Repr

inductive DecodeFault where
  | bytes (codec : String) (first : Option UInt8) (start stop : Int) (reason : String)
  | other (detail : String)
  deriving DecidableEq, Repr

namespace DecodeFault

def message : DecodeFault → String
  | .other detail => detail
  | .bytes codec first start stop reason =>
    let place := match first with
      | some b =>
        if stop = start + 1 then
          s!"byte 0x{String.ofList (Text.Quoted.hex 2 b.toNat)} in position {start}"
        else s!"bytes in position {start}-{stop - 1}"
      | none => s!"bytes in position {start}-{stop - 1}"
    s!"'{codec}' codec can't decode {place}: {reason}"

def cutShort : String := "unexpected end of data"

def unfinished? : DecodeFault → Option Nat
  | .bytes _ _ start _ reason => if reason = cutShort then some start.toNat else none
  | .other _ => none

end DecodeFault

namespace Encoding

def normalize (name : String) : String :=
  let (chars, _) := name.toList.foldl
    (fun (acc : List Char × Bool) c =>
      if c.isAlphanum || c = '.' then
        (acc.1 ++ (if acc.2 && !acc.1.isEmpty then ['_'] else []) ++ [c.toLower], false)
      else (acc.1, true))
    ([], false)
  String.ofList chars

def names : List (Encoding × String) :=
  [(.utf8, "utf_8"), (.utf8Signed, "utf_8_sig"), (.latin1, "latin_1"), (.ascii, "ascii"),
    (.windows1252, "cp1252"), (.utf16, "utf_16")]

def aliases : List (Encoding × List String) :=
  [(.utf8, ["u8", "utf", "utf8", "utf8_ucs2", "utf8_ucs4", "cp65001"]),
    (.latin1, ["8859", "cp819", "csisolatin1", "ibm819", "iso8859", "iso8859_1", "iso_8859_1",
      "iso_8859_1_1987", "iso_ir_100", "l1", "latin", "latin1"]),
    (.ascii, ["646", "ansi_x3.4_1968", "ansi_x3_4_1968", "ansi_x3.4_1986", "cp367", "csascii",
      "ibm367", "iso646_us", "iso_646.irv_1991", "iso_ir_6", "us", "us_ascii"]),
    (.windows1252, ["1252", "windows_1252"]),
    (.utf16, ["u16", "utf16"])]

def ofAlias? (name : String) : Option Encoding :=
  (aliases.find? fun e => e.2.contains name).map (·.1)

def ofName? (name : String) : Option Encoding :=
  let key := normalize name
  let dotless := String.ofList (key.toList.map fun c => if c = '.' then '_' else c)
  ((ofAlias? key).or (ofAlias? dotless)).or ((names.find? (·.2 = key)).map (·.1))

inductive NameFault where
  | unknown (name : String)
  | holdsZero
  | unpaired (points : List Nat)
  | notText (name : String)
  deriving DecidableEq, Repr

def NameFault.message : NameFault → String
  | .unknown name => "unknown encoding: " ++ name
  | .holdsZero => "embedded null character"
  | .notText name =>
    s!"'{name}' is not a text encoding; use codecs.open() to handle arbitrary codecs"
  | .unpaired points =>
    let start := points.findIdx Text.isHalf
    let halves := (points.drop start).takeWhile Text.isHalf
    let place := match halves with
      | [n] => s!"character '\\u{String.ofList (Text.Quoted.hex 4 n)}' in position {start}"
      | _ => s!"characters in position {start}-{start + halves.length - 1}"
    s!"'utf-8' codec can't encode {place}: surrogates not allowed"

def utf8Lead? (b : Nat) : Option (Nat × Nat × Nat × Nat) :=
  if 0xc2 ≤ b && b ≤ 0xdf then some (0x80, 0xbf, 1, b - 0xc0)
  else if b = 0xe0 then some (0xa0, 0xbf, 2, 0)
  else if b = 0xed then some (0x80, 0x9f, 2, 0xd)
  else if 0xe1 ≤ b && b ≤ 0xef then some (0x80, 0xbf, 2, b - 0xe0)
  else if b = 0xf0 then some (0x90, 0xbf, 3, 0)
  else if 0xf1 ≤ b && b ≤ 0xf3 then some (0x80, 0xbf, 3, b - 0xf0)
  else if b = 0xf4 then some (0x80, 0x8f, 3, 4)
  else none

inductive Tail where
  | char (code : Nat) (rest : List UInt8)
  | ended (seen : Nat)
  | broken (seen : Nat)

def utf8Tail (low high : Nat) : Nat → Nat → Nat → List UInt8 → Tail
  | 0, code, _, rest => .char code rest
  | _ + 1, _, seen, [] => .ended seen
  | more + 1, code, seen, b :: rest =>
    if low ≤ b.toNat && b.toNat ≤ high then
      utf8Tail 0x80 0xbf more (code * 64 + (b.toNat - 0x80)) (seen + 1) rest
    else .broken seen

def decodeUtf8From : Nat → Nat → List UInt8 → Except DecodeFault (List Char)
  | _, _, [] => .ok []
  | 0, _, _ => .ok []
  | fuel + 1, position, b :: rest =>
    let fault (stop : Nat) (reason : String) : Except DecodeFault (List Char) :=
      .error (.bytes "utf-8" (some b) position (position + stop) reason)
    if b.toNat < 0x80 then do
      let cs ← decodeUtf8From fuel (position + 1) rest
      .ok (Char.ofNat b.toNat :: cs)
    else match utf8Lead? b.toNat with
      | none => fault 1 "invalid start byte"
      | some (low, high, more, bits) =>
        match utf8Tail low high more bits 0 rest with
        | .ended seen => fault (1 + seen) DecodeFault.cutShort
        | .broken seen => fault (1 + seen) "invalid continuation byte"
        | .char code rest => do
          let cs ← decodeUtf8From fuel (position + 1 + more) rest
          .ok (Char.ofNat code :: cs)

def decodeUtf8 (bytes : List UInt8) : Except DecodeFault (List Char) :=
  decodeUtf8From bytes.length 0 bytes

def decodeSigned : List UInt8 → Except DecodeFault (List Char)
  | [0xef] => .ok []
  | [0xef, 0xbb] => .ok []
  | 0xef :: 0xbb :: 0xbf :: rest => decodeUtf8 rest
  | bytes => decodeUtf8 bytes

def decodeAscii (position : Nat) : List UInt8 → Except DecodeFault (List Char)
  | [] => .ok []
  | b :: rest =>
    if b.toNat < 128 then do
      let cs ← decodeAscii (position + 1) rest
      .ok (Char.ofNat b.toNat :: cs)
    else .error (.bytes "ascii" (some b) position (position + 1) "ordinal not in range(128)")

def windowsTable : List Nat :=
  [0x20ac, 0, 0x201a, 0x192, 0x201e, 0x2026, 0x2020, 0x2021, 0x2c6, 0x2030, 0x160, 0x2039, 0x152,
    0, 0x17d, 0, 0, 0x2018, 0x2019, 0x201c, 0x201d, 0x2022, 0x2013, 0x2014, 0x2dc, 0x2122, 0x161,
    0x203a, 0x153, 0, 0x17e, 0x178]

def windowsCode? (b : Nat) : Option Nat :=
  if 0x80 ≤ b && b < 0xa0 then
    match windowsTable[b - 0x80]? with
    | some 0 => none
    | other => other
  else some b

def decodeWindows (position : Nat) : List UInt8 → Except DecodeFault (List Char)
  | [] => .ok []
  | b :: rest =>
    match windowsCode? b.toNat with
    | some code => do
      let cs ← decodeWindows (position + 1) rest
      .ok (Char.ofNat code :: cs)
    | none =>
      .error (.bytes "charmap" (some b) position (position + 1) "character maps to <undefined>")

def unit (big : Bool) (a b : UInt8) : Nat :=
  if big then a.toNat * 256 + b.toNat else b.toNat * 256 + a.toNat

def decodeUnits (big : Bool) (position : Nat) : List UInt8 → Except DecodeFault (List Char)
  | [] => .ok []
  | [a] => .error (.bytes (codec big) (some a) position (position + 1) "truncated data")
  | a :: b :: rest =>
    let n := unit big a b
    let fault (stop : Nat) (reason : String) : Except DecodeFault (List Char) :=
      .error (.bytes (codec big) (some a) position (position + stop) reason)
    if Text.isLowUnit n then fault 2 "illegal encoding"
    else if Text.isHighUnit n then
      match rest with
      | c :: d :: rest =>
        let low := unit big c d
        if Text.isLowUnit low then do
          let cs ← decodeUnits big (position + 4) rest
          .ok (Char.ofNat (Text.pairCode n low) :: cs)
        else fault 2 "illegal UTF-16 surrogate"
      | rest => fault (2 + rest.length) DecodeFault.cutShort
    else do
      let cs ← decodeUnits big (position + 2) rest
      .ok (Char.ofNat n :: cs)
where
  codec (big : Bool) : String := if big then "utf-16-be" else "utf-16-le"

def decodeUtf16 : List UInt8 → Except DecodeFault (List Char)
  | 0xff :: 0xfe :: rest => decodeUnits false 2 rest
  | 0xfe :: 0xff :: rest => decodeUnits true 2 rest
  | [] => .ok []
  | bytes =>
    match decodeUnits false 0 bytes with
    | .ok _ => .error (.other "UTF-16 stream does not start with BOM")
    | .error e => .error e

def decode : Encoding → List UInt8 → Except DecodeFault (List Char)
  | .utf8, bytes => decodeUtf8 bytes
  | .utf8Signed, bytes => decodeSigned bytes
  | .latin1, bytes => .ok (bytes.map fun b => Char.ofNat b.toNat)
  | .ascii, bytes => decodeAscii 0 bytes
  | .windows1252, bytes => decodeWindows 0 bytes
  | .utf16, bytes => decodeUtf16 bytes

end Encoding

structure Codec where
  isText : Bool := true
  /-- Half a pair, which a few codecs let through, stands as the replacement character. -/
  decode : List UInt8 → Except DecodeFault (List Char)

abbrev Codecs := String → Option Codec

namespace Codecs

def written : Codecs := fun name => (Encoding.ofName? name).map fun e => { decode := e.decode }

def find (codecs : Codecs) (name : String) : Except Encoding.NameFault Codec :=
  if name.toList.any (·.toNat = 0) then .error .holdsZero
  else match codecs name with
    | some codec => .ok codec
    | none => .error (.unknown name)

def findText (codecs : Codecs) (name : String) : Except Encoding.NameFault Codec := do
  let codec ← codecs.find name
  if codec.isText then .ok codec else .error (.notText name)

end Codecs

def utf8Bytes (s : String) : List UInt8 := s.toUTF8.toList

end IndentLint
