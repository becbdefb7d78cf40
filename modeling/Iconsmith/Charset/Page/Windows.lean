import Iconsmith.Charset.Page

set_option autoImplicit false

/-!
# Pages of personal computers

The numbered code pages of windowed systems, and those of the systems before them.
-/

namespace Iconsmith.Page

/-- Code page 1250: Central Europe. -/
def cp1250 : Page where
  asIs := 0x80
  chart := ⟨[
    (0x80, "€"), (0x82, "‚"), (0x84, "„…†‡"), (0x89, "‰Š‹ŚŤŽŹ"), (0x91, "‘’“”•–—"),
    (0x99, "™š›śťžź\u00a0ˇ˘Ł¤Ą¦§¨©Ş«¬\u00ad®Ż°±˛ł´µ¶·¸ąş»Ľ˝ľż"),
    (0xc0, "ŔÁÂĂÄĹĆÇČÉĘËĚÍÎĎĐŃŇÓÔŐÖ×ŘŮÚŰÜÝŢßŕáâăäĺćçčéęëěíîďđńňóôőö÷řůúűüýţ˙")]⟩

/-- Code page 1251: Cyrillic. -/
def cp1251 : Page where
  asIs := 0x80
  chart := ⟨[
    (0x80, "ЂЃ‚ѓ„…†‡€‰Љ‹ЊЌЋЏђ‘’“”•–—"),
    (0x99, "™љ›њќћџ\u00a0ЎўЈ¤Ґ¦§Ё©Є«¬\u00ad®Ї°±Ііґµ¶·ё№є»јЅѕї"),
    (0xc0, "АБВГДЕЖЗИЙКЛМНОПРСТУФХЦЧШЩЪЫЬЭЮЯабвгдежзийклмнопрстуфхцчшщъыьэюя")]⟩

/-- Code page 1252: Western Europe. -/
def cp1252 : Page where
  asIs := 0x80
  chart := ⟨[
    (0x80, "€"), (0x82, "‚ƒ„…†‡ˆ‰Š‹Œ"), (0x8e, "Ž"), (0x91, "‘’“”•–—˜™š›œ"),
    (0x9e, "žŸ\u00a0¡¢£¤¥¦§¨©ª«¬\u00ad®¯°±²³´µ¶·¸¹º»¼½¾¿"),
    (0xc0, "ÀÁÂÃÄÅÆÇÈÉÊËÌÍÎÏÐÑÒÓÔÕÖ×ØÙÚÛÜÝÞßàáâãäåæçèéêëìíîïðñòóôõö÷øùúûüýþÿ")]⟩

/-- Code page 1253: Greek. -/
def cp1253 : Page where
  asIs := 0x80
  chart := ⟨[
    (0x80, "€"), (0x82, "‚ƒ„…†‡"), (0x89, "‰"), (0x8b, "‹"), (0x91, "‘’“”•–—"), (0x99, "™"),
    (0x9b, "›"), (0xa0, "\u00a0΅Ά£¤¥¦§¨©"), (0xab, "«¬\u00ad®―°±²³΄µ¶·ΈΉΊ»Ό½ΎΏ"),
    (0xc0, "ΐΑΒΓΔΕΖΗΘΙΚΛΜΝΞΟΠΡ"), (0xd3, "ΣΤΥΦΧΨΩΪΫάέήίΰαβγδεζηθικλμνξοπρςστυφχψωϊϋόύώ")]⟩

/-- Code page 1254: Turkish. -/
def cp1254 : Page where
  asIs := 0x80
  chart := ⟨[
    (0x80, "€"), (0x82, "‚ƒ„…†‡ˆ‰Š‹Œ"), (0x91, "‘’“”•–—˜™š›œ"),
    (0x9f, "Ÿ\u00a0¡¢£¤¥¦§¨©ª«¬\u00ad®¯°±²³´µ¶·¸¹º»¼½¾¿"),
    (0xc0, "ÀÁÂÃÄÅÆÇÈÉÊËÌÍÎÏĞÑÒÓÔÕÖ×ØÙÚÛÜİŞßàáâãäåæçèéêëìíîïğñòóôõö÷øùúûüışÿ")]⟩

/-- Code page 1255: Hebrew. -/
def cp1255 : Page where
  asIs := 0x80
  chart := ⟨[
    (0x80, "€"), (0x82, "‚ƒ„…†‡ˆ‰"), (0x8b, "‹"), (0x91, "‘’“”•–—˜™"), (0x9b, "›"),
    (0xa0, "\u00a0¡¢£₪¥¦§¨©×«¬\u00ad®¯°±²³´µ¶·¸¹÷»¼½¾¿"),
    (0xc0, "\u05b0\u05b1\u05b2\u05b3\u05b4\u05b5\u05b6\u05b7\u05b8\u05b9"),
    (0xcb, "\u05bb\u05bc\u05bd־\u05bf׀\u05c1\u05c2׃װױײ׳״"), (0xe0, "אבגדהוזחטיךכלםמןנסעףפץצקרשת"),
    (0xfd, "\u200e\u200f")]⟩

/-- Code page 1256: Arabic. -/
def cp1256 : Page where
  asIs := 0x80
  chart := ⟨[
    (0x80, "€پ‚ƒ„…†‡ˆ‰ٹ‹Œچژڈگ‘’“”•–—ک™ڑ›œ\u200c\u200dں\u00a0،¢£¤¥¦§¨©ھ«¬\u00ad®¯°±²³´µ¶·¸¹؛»¼½¾؟"),
    (0xc0, "ہءآأؤإئابةتثجحخدذرزسشصض×طظعغـفقك"),
    (0xe0, "àلâمنهوçèéêëىيîï\u064b\u064c\u064d\u064eô\u064f\u0650÷\u0651ù\u0652ûü\u200e\u200fے")]⟩

/-- Code page 1257: the Baltic. -/
def cp1257 : Page where
  asIs := 0x80
  chart := ⟨[
    (0x80, "€"), (0x82, "‚"), (0x84, "„…†‡"), (0x89, "‰"), (0x8b, "‹"), (0x8d, "¨ˇ¸"),
    (0x91, "‘’“”•–—"), (0x99, "™"), (0x9b, "›"), (0x9d, "¯˛"), (0xa0, "\u00a0"), (0xa2, "¢£¤"),
    (0xa6, "¦§Ø©Ŗ«¬\u00ad®Æ°±²³´µ¶·ø¹ŗ»¼½¾æ"),
    (0xc0, "ĄĮĀĆÄÅĘĒČÉŹĖĢĶĪĻŠŃŅÓŌÕÖ×ŲŁŚŪÜŻŽßąįāćäåęēčéźėģķīļšńņóōõö÷ųłśūüżž˙")]⟩

/-- Code page 1258: Vietnamese, with accents that follow their letters. -/
def cp1258 : Page where
  asIs := 0x80
  chart := ⟨[
    (0x80, "€"), (0x82, "‚ƒ„…†‡ˆ‰"), (0x8b, "‹Œ"), (0x91, "‘’“”•–—˜™"), (0x9b, "›œ"),
    (0x9f, "Ÿ\u00a0¡¢£¤¥¦§¨©ª«¬\u00ad®¯°±²³´µ¶·¸¹º»¼½¾¿"),
    (0xc0, "ÀÁÂĂÄÅÆÇÈÉÊË\u0300ÍÎÏĐÑ\u0309ÓÔƠÖ×ØÙÚÛÜƯ\u0303ß"),
    (0xe0, "àáâăäåæçèéêë\u0301íîïđñ\u0323óôơö÷øùúûüư₫ÿ")]⟩

/-- Code page 874: Thai. -/
def cp874 : Page where
  asIs := 0x80
  chart := ⟨[
    (0x80, "€"), (0x85, "…"), (0x91, "‘’“”•–—"), (0xa0, "\u00a0กขฃคฅฆงจฉชซฌญฎฏฐฑฒณดตถทธนบปผฝพฟ"),
    (0xc0, "ภมยรฤลฦวศษสหฬอฮฯะ\u0e31าำ\u0e34\u0e35\u0e36\u0e37\u0e38\u0e39\u0e3a"),
    (0xdf, "฿เแโใไๅๆ\u0e47\u0e48\u0e49\u0e4a\u0e4b\u0e4c\u0e4d\u0e4e๏๐๑๒๓๔๕๖๗๘๙๚๛")]⟩

/-- Code page 850: Western Europe, with lines and blocks. -/
def cp850 : Page where
  asIs := 0x80
  chart := ⟨[
    (0x80, "ÇüéâäàåçêëèïîìÄÅÉæÆôöòûùÿÖÜø£Ø×ƒáíóúñÑªº¿®¬½¼¡«»░▒▓│┤ÁÂÀ©╣║╗╝¢¥┐"),
    (0xc0, "└┴┬├─┼ãÃ╚╔╩╦╠═╬¤ðÐÊËÈıÍÎÏ┘┌█▄¦Ì▀ÓßÔÒõÕµþÞÚÛÙýÝ¯´\u00ad±‗¾¶§÷¸°¨·¹³²■\u00a0")]⟩

/-- Code page 862: Hebrew, with lines and blocks. -/
def cp862 : Page where
  asIs := 0x80
  chart := ⟨[
    (0x80, "אבגדהוזחטיךכלםמןנסעףפץצקרשת¢£¥₧ƒáíóúñÑªº¿⌐¬½¼¡«»░▒▓│┤╡╢╖╕╣║╗╝╜╛┐"),
    (0xc0, "└┴┬├─┼╞╟╚╔╩╦╠═╬╧╨╤╥╙╘╒╓╫╪┘┌█▄▌▐▀αßΓπΣσµτΦΘΩδ∞φε∩≡±≥≤⌠⌡÷≈°∙·√ⁿ²■\u00a0")]⟩

/-- Code page 866: Cyrillic, with lines and blocks. -/
def cp866 : Page where
  asIs := 0x80
  chart := ⟨[
    (0x80, "АБВГДЕЖЗИЙКЛМНОПРСТУФХЦЧШЩЪЫЬЭЮЯабвгдежзийклмноп░▒▓│┤╡╢╖╕╣║╗╝╜╛┐"),
    (0xc0, "└┴┬├─┼╞╟╚╔╩╦╠═╬╧╨╤╥╙╘╒╓╫╪┘┌█▄▌▐▀рстуфхцчшщъыьэюяЁёЄєЇїЎў°∙·√№¤■\u00a0")]⟩

/-- Code page 1131: Belarusian, with lines and blocks. -/
def cp1131 : Page where
  asIs := 0x80
  chart := ⟨[
    (0x80, "АБВГДЕЖЗИЙКЛМНОПРСТУФХЦЧШЩЪЫЬЭЮЯабвгдежзийклмноп░▒▓│┤╡╢╖╕╣║╗╝╜╛┐"),
    (0xc0, "└┴┬├─┼╞╟╚╔╩╦╠═╬╧╨╤╥╙╘╒╓╫╪┘┌█▄▌▐▀рстуфхцчшщъыьэюяЁёЄєЇїЎўІі·¤Ґґ∙\u00a0")]⟩

/-- Code page 1133: Lao. -/
def cp1133 : Page where
  asIs := 0xa1
  chart := ⟨[
    (0xa1, "ກຂຄງຈສຊຍດຕຖທນບປຜຝພຟມຢຣລວຫອຮ"), (0xbf, "ຯ"),
    (0xc0, "ະາຳ\u0eb4\u0eb5\u0eb6\u0eb7\u0eb8\u0eb9\u0ebc\u0eb1\u0ebbຽ"),
    (0xd0, "ເແໂໃໄ\u0ec8\u0ec9\u0eca\u0ecb\u0ecc\u0ecdໆ"), (0xdd, "ໜໝ₭"), (0xf0, "໐໑໒໓໔໕໖໗໘໙"),
    (0xfc, "¢¬¦")]⟩

end Iconsmith.Page
