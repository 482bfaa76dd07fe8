import DocSpace.Text.Charset.Escaped
import DocSpace.Text.Charset.Japanese
import DocSpace.Text.Charset.Korean
import DocSpace.Text.Charset.Simplified
import DocSpace.Text.Charset.Table
import DocSpace.Text.Charset.Traditional
import DocSpace.Text.Encoding
import DocSpace.Text.LetterCase

set_option autoImplicit false

namespace DocSpace.Text

/-- How the bytes of a text are to be read; some names stand for conversions that give no text. -/
inductive Charset where
  | plain (encoding : Encoding)
  | utf8WithMark
  | utf16ByMark
  | utf32ByMark
  | pairs (read : CharReader)
  | escaped (read : List UInt8 → List Char)
  | noText (label message : String)

namespace Charset

def isNameChar (c : Char) : Bool := c.isAlphanum || c == '.'

def normalize (s : String) : String :=
  let spaced := (lower s).toList.map fun c => if isNameChar c then c else '_'
  joined "_" (((pieces '_' spaced).filter fun p => !p.isEmpty).map String.ofList)

def latin : Encoding := .byteSet ((Array.range 256).map Char.ofNat)

/-- A name of its own, other names, and the charset. -/
structure Entry where
  name : String
  aliases : List String
  charset : Charset

def noTextAtAll : Charset := .noText "AssertionError" ""

def common : List Entry := [
  ⟨"ascii", ["646", "ansi_x3.4_1968", "ansi_x3.4_1986", "ansi_x3_4_1968", "cp367", "csascii",
    "ibm367", "iso646_us", "iso_646.irv_1991", "iso_ir_6", "us", "us_ascii"], .plain .ascii⟩,
  ⟨"latin_1", ["8859", "cp819", "csisolatin1", "ibm819", "iso8859", "iso8859_1", "iso_8859_1",
    "iso_8859_1_1987", "iso_ir_100", "l1", "latin", "latin1"], .plain latin⟩,
  ⟨"charmap", [], .plain latin⟩,
  ⟨"utf_8", ["cp65001", "u8", "utf", "utf8", "utf8_ucs2", "utf8_ucs4"], .plain .utf8⟩,
  ⟨"utf_8_sig", [], .utf8WithMark⟩,
  ⟨"utf_16", ["u16", "utf16"], .utf16ByMark⟩,
  ⟨"utf_16_be", ["unicodebigunmarked", "utf_16be"], .plain (.utf16 .big)⟩,
  ⟨"utf_16_le", ["unicodelittleunmarked", "utf_16le"], .plain (.utf16 .little)⟩,
  ⟨"utf_32", ["u32", "utf32"], .utf32ByMark⟩,
  ⟨"utf_32_be", ["utf_32be"], .plain (.utf32 .big)⟩,
  ⟨"utf_32_le", ["utf_32le"], .plain (.utf32 .little)⟩,
  ⟨"base64_codec", ["base64", "base_64"], noTextAtAll⟩,
  ⟨"bz2_codec", ["bz2"], noTextAtAll⟩,
  ⟨"hex_codec", ["hex"], noTextAtAll⟩,
  ⟨"quopri_codec", ["quopri", "quoted_printable", "quotedprintable"], noTextAtAll⟩,
  ⟨"uu_codec", ["uu"], noTextAtAll⟩,
  ⟨"zlib_codec", ["zip", "zlib"], noTextAtAll⟩,
  ⟨"rot_13", ["rot13"],
    .noText "TypeError"
      "descriptor 'translate' for 'str' objects doesn't apply to a 'bytes' object"⟩,
  ⟨"undefined", [], .noText "UnicodeError" "undefined encoding"⟩,
  ⟨"idna", [], .noText "UnicodeError" "Unsupported error handling replace"⟩]

/-- Charsets of more than one byte for a character. -/
def wide : List Entry := [
  ⟨"shift_jis", ["csshiftjis", "s_jis", "shiftjis", "sjis", "x_mac_japanese"],
    .pairs (readPair Japanese.single? Japanese.rows.get?)⟩,
  ⟨"cp932", ["932", "ms932", "ms_kanji", "mskanji"],
    .pairs (readPair Japanese.extendedSingle? Japanese.extended?)⟩,
  ⟨"euc_jp", ["eucjp", "u_jis", "ujis"], .pairs Japanese.readDirect⟩,
  ⟨"gb2312", ["chinese", "csiso58gb231280", "euc_cn", "euccn", "eucgb2312_cn", "gb2312_1980",
    "gb2312_80", "iso_ir_58", "x_mac_simp_chinese"],
    .pairs (readPair asciiChar? Simplified.national.get?)⟩,
  ⟨"gbk", ["936", "cp936", "ms936"], .pairs (readPair asciiChar? Simplified.extended?)⟩,
  ⟨"gb18030", ["gb18030_2000"], .pairs Simplified.readLater⟩,
  ⟨"big5", ["big5_tw", "csbig5", "x_mac_trad_chinese"],
    .pairs (readPair asciiChar? Traditional.rows.get?)⟩,
  ⟨"cp950", ["950", "ms950"], .pairs (readPair asciiChar? Traditional.extended?)⟩,
  ⟨"euc_kr", ["euckr", "korean", "ks_c_5601", "ks_c_5601_1987", "ks_x_1001", "ksc5601", "ksx1001",
    "x_mac_korean"], .pairs Korean.read⟩,
  ⟨"cp949", ["949", "ms949", "uhc"], .pairs (readPair asciiChar? Korean.extended?)⟩]

/-- Charsets that escape what is not ASCII, by a number for each step. -/
def escaping : List Entry := [
  ⟨"utf_7", ["u7", "unicode_1_1_utf_7", "utf7"],
    .escaped fun bs => Escaped.readRuns (2 * bs.length + 2) none bs⟩,
  ⟨"unicode_escape", [], .escaped fun bs => Escaped.readEscapes bs.length bs⟩,
  ⟨"raw_unicode_escape", [], .escaped fun bs => Escaped.readRaw bs.length bs⟩]

/-- Charsets that change what bytes stand for by the way; they start with ASCII. -/
def switching : List Entry := [
  ⟨"iso2022_jp", ["csiso2022jp", "iso2022jp", "iso_2022_jp"], .plain .ascii⟩,
  ⟨"iso2022_jp_1", ["iso2022jp_1", "iso_2022_jp_1"], .plain .ascii⟩,
  ⟨"iso2022_jp_2", ["iso2022jp_2", "iso_2022_jp_2"], .plain .ascii⟩,
  ⟨"iso2022_jp_2004", ["iso2022jp_2004", "iso_2022_jp_2004"], .plain .ascii⟩,
  ⟨"iso2022_jp_3", ["iso2022jp_3", "iso_2022_jp_3"], .plain .ascii⟩,
  ⟨"iso2022_jp_ext", ["iso2022jp_ext", "iso_2022_jp_ext"], .plain .ascii⟩,
  ⟨"iso2022_kr", ["csiso2022kr", "iso2022kr", "iso_2022_kr"], .plain .ascii⟩,
  ⟨"hz", ["hz_gb", "hz_gb_2312", "hzgb"], .plain .ascii⟩]

/-- The characters of a set of one byte; a table of the second half follows ASCII. -/
def ofByteSet (s : ByteSet) : Charset :=
  let table := s.characters.toList.toArray
  .plain (.byteSet (if table.size = 128 then (Array.range 128).map Char.ofNat ++ table else table))

def entries : List Entry :=
  common ++ wide ++ escaping ++ switching ++
    byteSets.map fun s => ⟨s.name, s.aliases, ofByteSet s⟩

def undotted (name : String) : String := name.map fun c => if c = '.' then '_' else c

/-- Dots may stand for underscores in other names, but not in a charset's own. -/
def ofName? (s : String) : Option Charset :=
  let name := normalize s
  let named (p : Entry → Bool) : Option Charset := (entries.find? p).map (·.charset)
  (named fun e => e.aliases.contains name)
    <|> (named fun e => e.aliases.contains (undotted name))
    <|> (named fun e => e.name == name)

def utf8Mark : List UInt8 := [0xef, 0xbb, 0xbf]

/-- A mark in front, whole or cut off, is no part of the text. -/
def dropUtf8Mark (bs : List UInt8) : List UInt8 :=
  if utf8Mark.isPrefixOf bs then bs.drop utf8Mark.length
  else if bs.isPrefixOf utf8Mark then []
  else bs

/-- The order of bytes that a mark in front shows. -/
def markedOrder? (little big : List UInt8) (bs : List UInt8) : Option ByteOrder :=
  if little.isPrefixOf bs then some .little
  else if big.isPrefixOf bs then some .big
  else none

/-- Without a mark there is no text, unless the bytes are too few for a character. -/
def decodeByMark (name : String) (little big : List UInt8) (encoding : ByteOrder → Encoding)
    (bs : List UInt8) : Except EncodingFault String :=
  match markedOrder? little big bs with
  | some order => .ok ((encoding order).decodeReplacing (bs.drop little.length))
  | none =>
    if bs.length < little.length then .ok ((encoding .little).decodeReplacing bs)
    else .error (.unmarked name)

def decode (c : Charset) (bs : List UInt8) : Except EncodingFault String :=
  if bs.isEmpty then .ok ""
  else
    match c with
    | plain e => .ok (e.decodeReplacing bs)
    | utf8WithMark => .ok (Encoding.utf8.decodeReplacing (dropUtf8Mark bs))
    | utf16ByMark => decodeByMark "UTF-16" [0xff, 0xfe] [0xfe, 0xff] .utf16 bs
    | utf32ByMark => decodeByMark "UTF-32" [0xff, 0xfe, 0, 0] [0, 0, 0xfe, 0xff] .utf32 bs
    | pairs read => .ok (readChars read bs)
    | escaped read => .ok (String.ofList (read bs))
    | noText label message => .error (.noText label message)

end Charset

end DocSpace.Text
