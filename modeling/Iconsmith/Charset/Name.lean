import Iconsmith.Charset.Escaped
import Iconsmith.Charset.Page.Macintosh
import Iconsmith.Charset.Page.Standard
import Iconsmith.Charset.Page.Windows
import Iconsmith.Charset.Switched

set_option autoImplicit false

/-!
# Names of character sets

A character set has several names, which are read without regard to case.
-/

namespace Iconsmith.Charset

/-- Character sets that are known to every reader, with their names. -/
def general : List (List String × Charset) := [
  (["UTF-8", "UTF8", "CHAR"], utf8),
  (["ASCII", "US-ASCII", "ISO646-US", "ISO-IR-6", "ANSI_X3.4-1968", "ANSI_X3.4-1986", "CP367",
    "IBM367", "US", "CSASCII"], ascii),
  (["UTF-16", "UTF16", "UTF-16LE"], utf16 .greatestLast),
  (["UTF-16BE"], utf16 .greatestFirst),
  (["UCS-2", "UCS2", "ISO-10646-UCS-2", "CSUNICODE", "UCS-2BE", "UNICODEBIG", "UNICODE-1-1",
    "CSUNICODE11", "UCS-2-SWAPPED"], ucs2 .greatestFirst),
  (["UCS-2LE", "UNICODELITTLE", "UCS-2-INTERNAL"], ucs2 .greatestLast),
  (["UCS-4", "UCS4", "ISO-10646-UCS-4", "CSUCS4", "UCS-4BE", "UTF-32", "UTF-32BE",
    "UCS-4-SWAPPED"], ucs4 .greatestFirst),
  (["UCS-4LE", "UTF-32LE", "UCS-4-INTERNAL", "WCHAR_T"], ucs4 .greatestLast),
  (["UTF-7", "UNICODE-1-1-UTF-7", "CSUNICODE11UTF7"], utf7),
  (["C99"], universallyEscaped),
  (["JAVA"], halvesEscaped)]

/-- Character sets of the standard for eight-bit characters. -/
def standard : List (List String × Charset) := [
  (["ISO-8859-1", "ISO_8859-1", "ISO8859-1", "ISO-IR-100", "CP819", "IBM819", "LATIN1", "L1",
    "ISO-LATIN-1", "CSISOLATIN1"], latin1),
  (["ISO-8859-2", "ISO_8859-2", "ISO8859-2", "ISO-IR-101", "LATIN2", "L2", "ISO-LATIN-2",
    "CSISOLATIN2"], Page.iso2.charset),
  (["ISO-8859-3", "ISO_8859-3", "ISO8859-3", "ISO-IR-109", "LATIN3", "L3", "CSISOLATIN3"],
    Page.iso3.charset),
  (["ISO-8859-4", "ISO_8859-4", "ISO8859-4", "ISO-IR-110", "LATIN4", "L4", "CSISOLATIN4"],
    Page.iso4.charset),
  (["ISO-8859-5", "ISO_8859-5", "ISO8859-5", "ISO-IR-144", "CYRILLIC", "CSISOLATINCYRILLIC"],
    Page.iso5.charset),
  (["ISO-8859-6", "ISO_8859-6", "ISO8859-6", "ISO-IR-127", "ECMA-114", "ASMO-708", "ARABIC",
    "CSISOLATINARABIC"], Page.iso6.charset),
  (["ISO-8859-7", "ISO_8859-7", "ISO8859-7", "ISO-IR-126", "ECMA-118", "ELOT_928", "GREEK8",
    "GREEK", "CSISOLATINGREEK"], Page.iso7.charset),
  (["ISO-8859-8", "ISO_8859-8", "ISO8859-8", "ISO-IR-138", "HEBREW", "CSISOLATINHEBREW"],
    Page.iso8.charset),
  (["ISO-8859-9", "ISO_8859-9", "ISO8859-9", "ISO-IR-148", "LATIN5", "L5", "CSISOLATIN5"],
    Page.iso9.charset),
  (["ISO-8859-10", "ISO_8859-10", "ISO8859-10", "ISO-IR-157", "LATIN6", "L6", "CSISOLATIN6"],
    Page.iso10.charset),
  (["ISO-8859-11", "ISO_8859-11", "ISO8859-11"], Page.iso11.charset),
  (["ISO-8859-13", "ISO_8859-13", "ISO8859-13", "ISO-IR-179", "LATIN7", "L7"],
    Page.iso13.charset),
  (["ISO-8859-14", "ISO_8859-14", "ISO8859-14", "ISO-IR-199", "LATIN8", "L8", "ISO-CELTIC"],
    Page.iso14.charset),
  (["ISO-8859-15", "ISO_8859-15", "ISO8859-15", "ISO-IR-203", "LATIN-9"], Page.iso15.charset),
  (["ISO-8859-16", "ISO_8859-16", "ISO8859-16", "ISO-IR-226", "LATIN10", "L10"],
    Page.iso16.charset)]

/-- Character sets of personal computers. -/
def personal : List (List String × Charset) := [
  (["CP1250", "WINDOWS-1250", "MS-EE"], Page.cp1250.charset),
  (["CP1251", "WINDOWS-1251", "MS-CYRL"], Page.cp1251.charset),
  (["CP1252", "WINDOWS-1252", "MS-ANSI"], Page.cp1252.charset),
  (["CP1253", "WINDOWS-1253", "MS-GREEK"], Page.cp1253.charset),
  (["CP1254", "WINDOWS-1254", "MS-TURK"], Page.cp1254.charset),
  (["CP1255", "WINDOWS-1255", "MS-HEBR"], Page.cp1255.charset),
  (["CP1256", "WINDOWS-1256", "MS-ARAB"], Page.cp1256.charset),
  (["CP1257", "WINDOWS-1257", "WINBALTRIM"], Page.cp1257.charset),
  (["CP1258", "WINDOWS-1258"], Page.cp1258.accentCharset),
  (["CP850", "IBM850", "CSPC850MULTILINGUAL"], Page.cp850.charset),
  (["CP862", "IBM862", "CSPC862LATINHEBREW"], Page.cp862.charset),
  (["CP866", "IBM866", "CSIBM866"], Page.cp866.charset),
  (["CP1131", "IBM-1131"], Page.cp1131.charset),
  (["CP1133", "IBM-CP1133"], Page.cp1133.charset),
  (["CP874", "WINDOWS-874"], Page.cp874.charset),
  (["MACROMAN", "MACINTOSH", "MAC", "CSMACINTOSH"], Page.macRoman.charset),
  (["MACCENTRALEUROPE"], Page.macCentralEurope.charset),
  (["MACICELAND"], Page.macIceland.charset),
  (["MACCROATIAN"], Page.macCroatian.charset),
  (["MACROMANIA"], Page.macRomania.charset),
  (["MACCYRILLIC"], Page.macCyrillic.charset),
  (["MACUKRAINE"], Page.macUkraine.charset),
  (["MACGREEK"], Page.macGreek.charset),
  (["MACTURKISH"], Page.macTurkish.charset),
  (["MACHEBREW"], Page.macHebrew.charset),
  (["MACARABIC"], Page.macArabic.charset),
  (["MACTHAI"], Page.macThai.charset)]

/-- Character sets of single countries and makers. -/
def regional : List (List String × Charset) := [
  (["KOI8-R", "CSKOI8R"], Page.koi8r.charset),
  (["KOI8-U"], Page.koi8u.charset),
  (["KOI8-RU"], Page.koi8ru.charset),
  (["KOI8-T"], Page.koi8t.charset),
  (["HP-ROMAN8", "ROMAN8", "R8", "CSHPROMAN8"], Page.hpRoman8.charset),
  (["NEXTSTEP"], Page.nextstep.charset),
  (["ARMSCII-8"], Page.armscii8.charset),
  (["GEORGIAN-ACADEMY"], Page.georgianAcademy.charset),
  (["GEORGIAN-PS"], Page.georgianPs.charset),
  (["PT154", "PTCP154", "CP154", "CYRILLIC-ASIAN", "CSPTCP154"], Page.pt154.charset),
  (["RK1048", "STRK1048-2002", "KZ-1048", "CSKZ1048"], Page.rk1048.charset),
  (["MULELAO-1"], Page.muleLao.charset),
  (["TIS-620", "TIS620", "TIS620-0", "TIS620.2529-1", "TIS620.2533-0", "TIS620.2533-1",
    "ISO-IR-166"], Page.tis620.charset),
  (["VISCII", "VISCII1.1-1", "CSVISCII"], Page.viscii.charset),
  (["TCVN", "TCVN-5712", "TCVN5712-1"], Page.tcvn.accentCharset),
  (["JIS_X0201", "JISX0201-1976", "X0201", "CSHALFWIDTHKATAKANA"], Page.jisX0201.charset),
  (["JIS_C6220-1969-RO", "ISO646-JP", "ISO-IR-14", "JP", "CSISO14JISC6220RO"],
    Page.iso646jp.charset),
  (["ISO646-CN", "GB_1988-80", "ISO-IR-57", "CN", "CSISO57GB1988"], Page.iso646cn.charset)]

/-- Character sets of Eastern Asia. -/
def eastern : List (List String × Charset) := [
  (["EUC-JP", "EUCJP", "EXTENDED_UNIX_CODE_PACKED_FORMAT_FOR_JAPANESE",
    "CSEUCPKDFMTJAPANESE"], eucJp),
  (["SHIFT_JIS", "SHIFT-JIS", "SJIS", "MS_KANJI", "CSSHIFTJIS"], shiftJis),
  (["CP932"], cp932),
  (["ISO-2022-JP", "CSISO2022JP"], iso2022Jp),
  (["ISO-2022-JP-1"], iso2022Jp1),
  (["ISO-2022-JP-2", "CSISO2022JP2"], iso2022Jp2),
  (["ISO-2022-JP-MS", "CP50221"], iso2022JpMs),
  (["EUC-CN", "EUCCN", "GB2312", "CN-GB", "CSGB2312"], eucCn),
  (["GBK"], gbk),
  (["CP936", "MS936", "WINDOWS-936"], cp936),
  (["GB18030"], gb18030),
  (["ISO-2022-CN", "CSISO2022CN", "ISO-2022-CN-EXT"], iso2022Cn),
  (["HZ", "HZ-GB-2312"], hz),
  (["EUC-TW", "EUCTW", "CSEUCTW"], eucTw),
  (["BIG5", "BIG-5", "BIG-FIVE", "BIGFIVE", "CN-BIG5", "CSBIG5"], big5),
  (["CP950"], cp950),
  (["BIG5-HKSCS", "BIG5HKSCS"], big5Hkscs),
  (["EUC-KR", "EUCKR", "CSEUCKR"], eucKr),
  (["CP949", "UHC"], cp949),
  (["JOHAB", "CP1361"], johab),
  (["ISO-2022-KR", "CSISO2022KR"], iso2022Kr)]

/-- Every character set with its names. -/
def named : List (List String × Charset) := general ++ standard ++ personal ++ regional ++ eastern

/-- The character set of a name. -/
def ofName? (name : Text) : Option Charset :=
  let name := String.ofList (name.map Char.toUpper)
  (named.find? fun (names, _) => names.contains name).map (·.2)

end Iconsmith.Charset
