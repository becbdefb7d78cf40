import Iconsmith.Charset.Page

set_option autoImplicit false

/-!
# Pages of the standard for eight-bit characters

The parts of ISO 8859. The bytes up to 0x9F are the same in all of them.
-/

namespace Iconsmith.Page

/-- Part 2 of the standard: Central Europe. -/
def iso2 : Page where
  asIs := 0xa1
  chart := ⟨[
    (0xa1, "Ą˘Ł¤ĽŚ§¨ŠŞŤŹ\u00adŽŻ°ą˛ł´ľśˇ¸šşťź˝žż"),
    (0xc0, "ŔÁÂĂÄĹĆÇČÉĘËĚÍÎĎĐŃŇÓÔŐÖ×ŘŮÚŰÜÝŢßŕáâăäĺćçčéęëěíîďđńňóôőö÷řůúűüýţ˙")]⟩

/-- Part 3 of the standard: Southern Europe. -/
def iso3 : Page where
  asIs := 0xa1
  chart := ⟨[
    (0xa1, "Ħ˘£¤"), (0xa6, "Ĥ§¨İŞĞĴ\u00ad"), (0xaf, "Ż°ħ²³´µĥ·¸ışğĵ½"), (0xbf, "ż"),
    (0xc0, "ÀÁÂ"), (0xc4, "ÄĊĈÇÈÉÊËÌÍÎÏ"), (0xd1, "ÑÒÓÔĠÖ×ĜÙÚÛÜŬŜßàáâ"), (0xe4, "äċĉçèéêëìíîï"),
    (0xf1, "ñòóôġö÷ĝùúûüŭŝ˙")]⟩

/-- Part 4 of the standard: Northern Europe. -/
def iso4 : Page where
  asIs := 0xa1
  chart := ⟨[
    (0xa1, "ĄĸŖ¤ĨĻ§¨ŠĒĢŦ\u00adŽ¯°ą˛ŗ´ĩļˇ¸šēģŧŊžŋ"),
    (0xc0, "ĀÁÂÃÄÅÆĮČÉĘËĖÍÎĪĐŅŌĶÔÕÖ×ØŲÚÛÜŨŪßāáâãäåæįčéęëėíîīđņōķôõö÷øųúûüũū˙")]⟩

/-- Part 5 of the standard: Cyrillic. -/
def iso5 : Page where
  asIs := 0xa1
  chart := ⟨[
    (0xa1, "ЁЂЃЄЅІЇЈЉЊЋЌ\u00adЎЏАБВГДЕЖЗИЙКЛМНОП"),
    (0xc0, "РСТУФХЦЧШЩЪЫЬЭЮЯабвгдежзийклмнопрстуфхцчшщъыьэюя№ёђѓєѕіїјљњћќ§ўџ")]⟩

/-- Part 6 of the standard: Arabic. -/
def iso6 : Page where
  asIs := 0xa1
  chart := ⟨[
    (0xa4, "¤"), (0xac, "،\u00ad"), (0xbb, "؛"), (0xbf, "؟"),
    (0xc1, "ءآأؤإئابةتثجحخدذرزسشصضطظعغ"),
    (0xe0, "ـفقكلمنهوىي\u064b\u064c\u064d\u064e\u064f\u0650\u0651\u0652")]⟩

/-- Part 7 of the standard: Greek. -/
def iso7 : Page where
  asIs := 0xa1
  chart := ⟨[
    (0xa1, "‘’£€₯¦§¨©ͺ«¬\u00ad"), (0xaf, "―°±²³΄΅Ά·ΈΉΊ»Ό½ΎΏ"), (0xc0, "ΐΑΒΓΔΕΖΗΘΙΚΛΜΝΞΟΠΡ"),
    (0xd3, "ΣΤΥΦΧΨΩΪΫάέήίΰαβγδεζηθικλμνξοπρςστυφχψωϊϋόύώ")]⟩

/-- Part 8 of the standard: Hebrew. -/
def iso8 : Page where
  asIs := 0xa1
  chart := ⟨[
    (0xa2, "¢£¤¥¦§¨©×«¬\u00ad®¯°±²³´µ¶·¸¹÷»¼½¾"), (0xdf, "‗אבגדהוזחטיךכלםמןנסעףפץצקרשת"),
    (0xfd, "\u200e\u200f")]⟩

/-- Part 9 of the standard: Turkish. -/
def iso9 : Page where
  asIs := 0xd0
  chart := ⟨[
    (0xd0, "ĞÑÒÓÔÕÖ×ØÙÚÛÜİŞßàáâãäåæçèéêëìíîïğñòóôõö÷øùúûüışÿ")]⟩

/-- Part 10 of the standard: the Nordic languages. -/
def iso10 : Page where
  asIs := 0xa1
  chart := ⟨[
    (0xa1, "ĄĒĢĪĨĶ§ĻĐŠŦŽ\u00adŪŊ°ąēģīĩķ·ļđšŧž―ūŋ"),
    (0xc0, "ĀÁÂÃÄÅÆĮČÉĘËĖÍÎÏÐŅŌÓÔÕÖŨØŲÚÛÜÝÞßāáâãäåæįčéęëėíîïðņōóôõöũøųúûüýþĸ")]⟩

/-- Part 11 of the standard: Thai. -/
def iso11 : Page where
  asIs := 0xa1
  chart := ⟨[
    (0xa1, "กขฃคฅฆงจฉชซฌญฎฏฐฑฒณดตถทธนบปผฝพฟ"),
    (0xc0, "ภมยรฤลฦวศษสหฬอฮฯะ\u0e31าำ\u0e34\u0e35\u0e36\u0e37\u0e38\u0e39\u0e3a"),
    (0xdf, "฿เแโใไๅๆ\u0e47\u0e48\u0e49\u0e4a\u0e4b\u0e4c\u0e4d\u0e4e๏๐๑๒๓๔๕๖๗๘๙๚๛")]⟩

/-- Part 13 of the standard: the Baltic. -/
def iso13 : Page where
  asIs := 0xa1
  chart := ⟨[
    (0xa1, "”¢£¤„¦§Ø©Ŗ«¬\u00ad®Æ°±²³“µ¶·ø¹ŗ»¼½¾æ"),
    (0xc0, "ĄĮĀĆÄÅĘĒČÉŹĖĢĶĪĻŠŃŅÓŌÕÖ×ŲŁŚŪÜŻŽßąįāćäåęēčéźėģķīļšńņóōõö÷ųłśūüżž’")]⟩

/-- Part 14 of the standard: the Celtic languages. -/
def iso14 : Page where
  asIs := 0xa1
  chart := ⟨[
    (0xa1, "Ḃḃ£ĊċḊ§Ẁ©ẂḋỲ\u00ad®ŸḞḟĠġṀṁ¶ṖẁṗẃṠỳẄẅṡ"),
    (0xc0, "ÀÁÂÃÄÅÆÇÈÉÊËÌÍÎÏŴÑÒÓÔÕÖṪØÙÚÛÜÝŶßàáâãäåæçèéêëìíîïŵñòóôõöṫøùúûüýŷÿ")]⟩

/-- Part 15 of the standard: Western Europe, with the euro sign. -/
def iso15 : Page where
  asIs := 0xa4
  chart := ⟨[
    (0xa4, "€¥Š§š©ª«¬\u00ad®¯°±²³Žµ¶·ž¹º»ŒœŸ¿"),
    (0xc0, "ÀÁÂÃÄÅÆÇÈÉÊËÌÍÎÏÐÑÒÓÔÕÖ×ØÙÚÛÜÝÞßàáâãäåæçèéêëìíîïðñòóôõö÷øùúûüýþÿ")]⟩

/-- Part 16 of the standard: South-eastern Europe. -/
def iso16 : Page where
  asIs := 0xa1
  chart := ⟨[
    (0xa1, "ĄąŁ€„Š§š©Ș«Ź\u00adźŻ°±ČłŽ”¶·žčș»ŒœŸż"),
    (0xc0, "ÀÁÂĂÄĆÆÇÈÉÊËÌÍÎÏĐŃÒÓÔŐÖŚŰÙÚÛÜĘȚßàáâăäćæçèéêëìíîïđńòóôőöśűùúûüęțÿ")]⟩

end Iconsmith.Page
