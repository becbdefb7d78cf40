import Iconsmith.Charset.Page

set_option autoImplicit false

/-!
# Pages of the Macintosh

One page for each script. A place of the maker's own sign stands for no character.
-/

namespace Iconsmith.Page

/-- The Macintosh page of Western Europe. -/
def macRoman : Page where
  asIs := 0x80
  chart := ⟨[
    (0x80, "ÄÅÇÉÑÖÜáàâäãåçéèêëíìîïñóòôöõúùûü†°¢£§•¶ß®©™´¨≠ÆØ∞±≤≥¥µ∂∑∏π∫ªºΩæø"),
    (0xc0, "¿¡¬√ƒ≈∆«»…\u00a0ÀÃÕŒœ–—“”‘’÷◊ÿŸ⁄¤‹›ﬁﬂ‡·‚„‰ÂÊÁËÈÍÎÏÌÓÔ"), (0xf1, "ÒÚÛÙıˆ˜¯˘˙˚¸˝˛ˇ")]⟩

/-- The Macintosh page of Central Europe. -/
def macCentralEurope : Page where
  asIs := 0x80
  chart := ⟨[
    (0x80, "ÄĀāÉĄÖÜáąČäčĆćéŹźĎíďĒēĖóėôöõúĚěü†°Ę£§•¶ß®©™ę¨≠ģĮįĪ≤≥īĶ∂∑łĻļĽľĹĺŅ"),
    (0xc0, "ņŃ¬√ńŇ∆«»…\u00a0ňŐÕőŌ–—“”‘’÷◊ōŔŕŘ‹›řŖŗŠ‚„šŚśÁŤťÍŽžŪÓÔūŮÚůŰűŲųÝýķŻŁżĢˇ")]⟩

/-- The Macintosh page of Iceland. -/
def macIceland : Page where
  asIs := 0x80
  chart := ⟨[
    (0x80, "ÄÅÇÉÑÖÜáàâäãåçéèêëíìîïñóòôöõúùûüÝ°¢£§•¶ß®©™´¨≠ÆØ∞±≤≥¥µ∂∑∏π∫ªºΩæø"),
    (0xc0, "¿¡¬√ƒ≈∆«»…\u00a0ÀÃÕŒœ–—“”‘’÷◊ÿŸ⁄¤ÐðÞþý·‚„‰ÂÊÁËÈÍÎÏÌÓÔ"), (0xf1, "ÒÚÛÙıˆ˜¯˘˙˚¸˝˛ˇ")]⟩

/-- The Macintosh page of Croatian. -/
def macCroatian : Page where
  asIs := 0x80
  chart := ⟨[
    (0x80, "ÄÅÇÉÑÖÜáàâäãåçéèêëíìîïñóòôöõúùûü†°¢£§•¶ß®Š™´¨≠ŽØ∞±≤≥∆µ∂∑∏š∫ªºΩžø"),
    (0xc0, "¿¡¬√ƒ≈Ć«Č…\u00a0ÀÃÕŒœĐ—“”‘’÷◊"), (0xd9, "©⁄¤‹›Æ»–·‚„‰ÂćÁčÈÍÎÏÌÓÔđÒÚÛÙıˆ˜¯πË˚¸Êæˇ")]⟩

/-- The Macintosh page of Romanian. -/
def macRomania : Page where
  asIs := 0x80
  chart := ⟨[
    (0x80, "ÄÅÇÉÑÖÜáàâäãåçéèêëíìîïñóòôöõúùûü†°¢£§•¶ß®©™´¨≠ĂŞ∞±≤≥¥µ∂∑∏π∫ªºΩăş"),
    (0xc0, "¿¡¬√ƒ≈∆«»…\u00a0ÀÃÕŒœ–—“”‘’÷◊ÿŸ⁄¤‹›Ţţ‡·‚„‰ÂÊÁËÈÍÎÏÌÓÔ"), (0xf1, "ÒÚÛÙıˆ˜¯˘˙˚¸˝˛ˇ")]⟩

/-- The Macintosh page of Cyrillic. -/
def macCyrillic : Page where
  asIs := 0x80
  chart := ⟨[
    (0x80, "АБВГДЕЖЗИЙКЛМНОПРСТУФХЦЧШЩЪЫЬЭЮЯ†°¢£§•¶І®©™Ђђ≠Ѓѓ∞±≤≥іµ∂ЈЄєЇїЉљЊњ"),
    (0xc0, "јЅ¬√ƒ≈∆«»…\u00a0ЋћЌќѕ–—“”‘’÷„ЎўЏџ№Ёёяабвгдежзийклмнопрстуфхцчшщъыьэю¤")]⟩

/-- The Macintosh page of Ukrainian. -/
def macUkraine : Page where
  asIs := 0x80
  chart := ⟨[
    (0x80, "АБВГДЕЖЗИЙКЛМНОПРСТУФХЦЧШЩЪЫЬЭЮЯ†°Ґ£§•¶І®©™Ђђ≠Ѓѓ∞±≤≥іµґЈЄєЇїЉљЊњ"),
    (0xc0, "јЅ¬√ƒ≈∆«»…\u00a0ЋћЌќѕ–—“”‘’÷„ЎўЏџ№Ёёяабвгдежзийклмнопрстуфхцчшщъыьэю¤")]⟩

/-- The Macintosh page of Greek. -/
def macGreek : Page where
  asIs := 0x80
  chart := ⟨[
    (0x80, "Ä¹²É³ÖÜ΅àâä΄¨çéèêë£™îï•½‰ôö¦\u00adùûü†ΓΔΘΛΞΠß®©ΣΪ§≠°·Α±≤≥¥ΒΕΖΗΙΚΜΦΫΨΩ"),
    (0xc0, "άΝ¬ΟΡ≈Τ«»…\u00a0ΥΧΆΈœ–―“”‘’÷ΉΊΌΎέήίόΏύαβψδεφγηιξκλμνοπώρστθωςχυζϊϋΐΰ")]⟩

/-- The Macintosh page of Turkish. -/
def macTurkish : Page where
  asIs := 0x80
  chart := ⟨[
    (0x80, "ÄÅÇÉÑÖÜáàâäãåçéèêëíìîïñóòôöõúùûü†°¢£§•¶ß®©™´¨≠ÆØ∞±≤≥¥µ∂∑∏π∫ªºΩæø"),
    (0xc0, "¿¡¬√ƒ≈∆«»…\u00a0ÀÃÕŒœ–—“”‘’÷◊ÿŸĞğİıŞş‡·‚„‰ÂÊÁËÈÍÎÏÌÓÔ"), (0xf1, "ÒÚÛÙ"),
    (0xf6, "ˆ˜¯˘˙˚¸˝˛ˇ")]⟩

/-- The Macintosh page of Hebrew. Second copies of other characters are left out. -/
def macHebrew : Page where
  asIs := 0x80
  chart := ⟨[
    (0x80, "ÄײַÇÉÑÖÜáàâäãåçéèêëíìîïñóòôöõúùûü"), (0xa6, "₪"), (0xc1, "„"),
    (0xc6, "\u05bcוֹוּ…\u00a0\u05b8\u05b7\u05b5\u05b6\u05b4"),
    (0xd0, "–—“”‘’שׁשׂ\u05bf\u05b0\u05b2\u05b1"), (0xdc, "\u05bb\u05b9"),
    (0xdf, "\u05b3אבגדהוזחטיךכלםמןנסעףפץצקרשת")]⟩

/-- The Macintosh page of Arabic. Second copies of other characters are left out. -/
def macArabic : Page where
  asIs := 0x80
  chart := ⟨[
    (0x80, "Ä\u00a0ÇÉÑÖÜáàâäں«çéèêëí…îïñó»ôö÷úùûü"), (0xa5, "٪"), (0xac, "،"),
    (0xb0, "٠١٢٣٤٥٦٧٨٩"), (0xbb, "؛"), (0xbf, "؟"), (0xc0, "❊ءآأؤإئابةتثجحخدذرزسشصضطظعغ"),
    (0xe0, "ـفقكلمنهوىي\u064b\u064c\u064d\u064e\u064f\u0650\u0651\u0652پٹچەڤگڈڑ"), (0xfe, "ژے")]⟩

/-- The Macintosh page of Thai, with shifted signs in the private area. -/
def macThai : Page where
  asIs := 0x80
  chart := ⟨[
    (0x80, "«»…\uf88c\uf88f\uf892\uf895\uf898\uf88b\uf88e\uf891\uf894\uf897“”\uf899"),
    (0x91, "•\uf884\uf889\uf885\uf886\uf887\uf888\uf88a\uf88d\uf890\uf893\uf896‘’"),
    (0xa0, "\u00a0กขฃคฅฆงจฉชซฌญฎฏฐฑฒณดตถทธนบปผฝพฟ"),
    (0xc0, "ภมยรฤลฦวศษสหฬอฮฯ"),
    (0xd0, "ะ\u0e31าำ\u0e34\u0e35\u0e36\u0e37\u0e38\u0e39\u0e3a\ufeff\u200b–—฿"),
    (0xe0, "เแโใไๅๆ\u0e47\u0e48\u0e49\u0e4a\u0e4b\u0e4c\u0e4d™๏๐๑๒๓๔๕๖๗๘๙®©")]⟩

end Iconsmith.Page
