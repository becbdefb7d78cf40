import Iconsmith.Charset.Page

set_option autoImplicit false

/-!
# Pages of single countries and makers
-/

namespace Iconsmith.Page

/-- Russian, in the order of Latin letters. -/
def koi8r : Page where
  asIs := 0x80
  chart := ⟨[
    (0x80, "─│┌┐└┘├┤┬┴┼▀▄█▌▐░▒▓⌠■∙√≈≤≥\u00a0⌡°²·÷═║╒ё╓╔╕╖╗╘╙╚╛╜╝╞╟╠╡Ё╢╣╤╥╦╧╨╩╪╫╬©"),
    (0xc0, "юабцдефгхийклмнопярстужвьызшэщчъЮАБЦДЕФГХИЙКЛМНОПЯРСТУЖВЬЫЗШЭЩЧЪ")]⟩

/-- Ukrainian, in the order of Latin letters. -/
def koi8u : Page where
  asIs := 0x80
  chart := ⟨[
    (0x80, "─│┌┐└┘├┤┬┴┼▀▄█▌▐░▒▓⌠■∙√≈≤≥\u00a0⌡°²·÷═║╒ёє╔ії╗╘╙╚╛ґ╝╞╟╠╡ЁЄ╣ІЇ╦╧╨╩╪Ґ╬©"),
    (0xc0, "юабцдефгхийклмнопярстужвьызшэщчъЮАБЦДЕФГХИЙКЛМНОПЯРСТУЖВЬЫЗШЭЩЧЪ")]⟩

/-- Ukrainian and Belarusian, in the order of Latin letters. -/
def koi8ru : Page where
  asIs := 0x80
  chart := ⟨[
    (0x80, "─│┌┐└┘├┤┬┴┼▀▄█▌▐░▒▓“■∙”—№™\u00a0»®«·¤═║╒ёє╔ії╗╘╙╚╛ґў╞╟╠╡ЁЄ╣ІЇ╦╧╨╩╪ҐЎ©"),
    (0xc0, "юабцдефгхийклмнопярстужвьызшэщчъЮАБЦДЕФГХИЙКЛМНОПЯРСТУЖВЬЫЗШЭЩЧЪ")]⟩

/-- Tajik, in the order of Latin letters. -/
def koi8t : Page where
  asIs := 0x80
  chart := ⟨[
    (0x80, "қғ‚Ғ„…†‡"), (0x89, "‰ҳ‹ҲҷҶ"), (0x90, "Қ‘’“”•–—"), (0x99, "™"), (0x9b, "›"),
    (0xa1, "ӯӮё¤ӣ¦§"), (0xab, "«¬\u00ad®"), (0xb0, "°±²Ё"), (0xb5, "Ӣ¶·"), (0xb9, "№"),
    (0xbb, "»"), (0xbf, "©"),
    (0xc0, "юабцдефгхийклмнопярстужвьызшэщчъЮАБЦДЕФГХИЙКЛМНОПЯРСТУЖВЬЫЗШЭЩЧЪ")]⟩

/-- The page of printers for Western Europe. -/
def hpRoman8 : Page where
  asIs := 0xa1
  chart := ⟨[
    (0xa1, "ÀÂÈÊËÎÏ´ˋˆ¨˜ÙÛ₤¯Ýý°ÇçÑñ¡¿¤£¥§ƒ¢"),
    (0xc0, "âêôûáéóúàèòùäëöüÅîØÆåíøæÄìÖÜÉïßÔÁÃãÐðÍÌÓÒÕõŠšÚŸÿÞþ·µ¶¾—¼½ªº«■»±")]⟩

/-- The page of Western Europe with typographic signs. -/
def nextstep : Page where
  asIs := 0x80
  chart := ⟨[
    (0x80, "\u00a0ÀÁÂÃÄÅÇÈÉÊËÌÍÎÏÐÑÒÓÔÕÖÙÚÛÜÝÞµ×÷©¡¢£⁄¥ƒ§¤’“«‹›ﬁﬂ®–†‡·¦¶•‚„”»…‰¬¿"),
    (0xc0, "¹ˋ´ˆ˜¯˘˙¨²˚¸³˝˛ˇ—±¼½¾àáâãäåçèéêëìÆíªîïðñŁØŒºòóôõöæùúûıüýłøœßþÿ")]⟩

/-- Armenian. -/
def armscii8 : Page where
  asIs := 0xa1
  chart := ⟨[
    (0xa2, "և։)(»«—.՝,-֊…՜՛՞ԱաԲբԳգԴդԵեԶզԷէ"),
    (0xc0, "ԸըԹթԺժԻիԼլԽխԾծԿկՀհՁձՂղՃճՄմՅյՆնՇշՈոՉչՊպՋջՌռՍսՎվՏտՐրՑցՒւՓփՔքՕօՖֆ՚")]⟩

/-- Georgian, in the order of the academy. -/
def georgianAcademy : Page where
  asIs := 0x82
  chart := ⟨[
    (0x82, "‚ƒ„…†‡ˆ‰Š‹Œ\u008d\u008e\u008f\u0090‘’“”•–—˜™š›œ\u009d\u009eŸ"),
    (0xa0, "\u00a0¡¢£¤¥¦§¨©ª«¬\u00ad®¯"), (0xb0, "°±²³´µ¶·¸¹º»¼½¾¿"),
    (0xc0, "აბგდევზთიკლმნოპჟრსტუფქღყშჩცძწჭხჯჰჱჲჳჴჵჶçèéêëìíîïðñòóôõö÷øùúûüýþÿ")]⟩

/-- Georgian, in the order of typesetters. -/
def georgianPs : Page where
  asIs := 0x82
  chart := ⟨[
    (0x82, "‚ƒ„…†‡ˆ‰Š‹Œ\u008d\u008e\u008f\u0090‘’“”•–—˜™š›œ\u009d\u009eŸ"),
    (0xa0, "\u00a0¡¢£¤¥¦§¨©ª«¬\u00ad®¯"), (0xb0, "°±²³´µ¶·¸¹º»¼½¾¿"),
    (0xc0, "აბგდევზჱთიკლმნჲოპჟრსტჳუფქღყშჩცძწჭხჴჯჰჵæçèéêëìíîïðñòóôõö÷øùúûüýþÿ")]⟩

/-- Cyrillic of Central Asia. -/
def pt154 : Page where
  asIs := 0x80
  chart := ⟨[
    (0x80, "ҖҒӮғ„…ҶҮҲүҠӢҢҚҺҸҗ‘’“”•–—ҳҷҡӣңқһҹ\u00a0ЎўЈӨҘҰ§Ё©Ә«¬ӯ®Ҝ°ұІіҙө¶·ё№ә»јҪҫҝ"),
    (0xc0, "АБВГДЕЖЗИЙКЛМНОПРСТУФХЦЧШЩЪЫЬЭЮЯабвгдежзийклмнопрстуфхцчшщъыьэюя")]⟩

/-- Kazakh. -/
def rk1048 : Page where
  asIs := 0x80
  chart := ⟨[
    (0x80, "ЂЃ‚ѓ„…†‡€‰Љ‹ЊҚҺЏђ‘’“”•–—"),
    (0x99, "™љ›њқһџ\u00a0ҰұӘ¤Ө¦§Ё©Ғ«¬\u00ad®Ү°±Ііөµ¶·ё№ғ»әҢңү"),
    (0xc0, "АБВГДЕЖЗИЙКЛМНОПРСТУФХЦЧШЩЪЫЬЭЮЯабвгдежзийклмнопрстуфхцчшщъыьэюя")]⟩

/-- Lao, in the order of its block. -/
def muleLao : Page where
  asIs := 0xa1
  chart := ⟨[
    (0xa1, "ກຂ"), (0xa4, "ຄ"), (0xa7, "ງຈ"), (0xaa, "ຊ"), (0xad, "ຍ"), (0xb4, "ດຕຖທ"),
    (0xb9, "ນບປຜຝພຟ"), (0xc1, "ມຢຣ"), (0xc5, "ລ"), (0xc7, "ວ"), (0xca, "ສຫ"),
    (0xcd, "ອຮຯະ\u0eb1າຳ\u0eb4\u0eb5\u0eb6\u0eb7\u0eb8\u0eb9"), (0xdb, "\u0ebb\u0ebcຽ"),
    (0xe0, "ເແໂໃໄ"), (0xe6, "ໆ"), (0xe8, "\u0ec8\u0ec9\u0eca\u0ecb\u0ecc\u0ecd"),
    (0xf0, "໐໑໒໓໔໕໖໗໘໙"), (0xfc, "ໜໝ")]⟩

/-- Thai, by the national standard. -/
def tis620 : Page where
  asIs := 0x80
  chart := ⟨[
    (0xa1, "กขฃคฅฆงจฉชซฌญฎฏฐฑฒณดตถทธนบปผฝพฟ"),
    (0xc0, "ภมยรฤลฦวศษสหฬอฮฯะ\u0e31าำ\u0e34\u0e35\u0e36\u0e37\u0e38\u0e39\u0e3a"),
    (0xdf, "฿เแโใไๅๆ\u0e47\u0e48\u0e49\u0e4a\u0e4b\u0e4c\u0e4d\u0e4e๏๐๑๒๓๔๕๖๗๘๙๚๛")]⟩

/-- Vietnamese, with every accented letter in one place. -/
def viscii : Page where
  asIs := 0x80
  chart := ⟨[
    (0x02, "Ẳ"), (0x05, "ẴẪ"), (0x14, "Ỷ"), (0x19, "Ỹ"), (0x1e, "Ỵ"),
    (0x80, "ẠẮẰẶẤẦẨẬẼẸẾỀỂỄỆỐỒỔỖỘỢỚỜỞỊỎỌỈỦŨỤỲÕắằặấầẩậẽẹếềểễệốồổỗỠƠộờởịỰỨỪỬơớƯ"),
    (0xc0, "ÀÁÂÃẢĂẳẵÈÉÊẺÌÍĨỳĐứÒÓÔạỷừửÙÚỹỵÝỡưàáâãảăữẫèéêẻìíĩỉđựòóôõỏọụùúũủýợỮ")]⟩

/-- Vietnamese, with accents that may follow their letters. -/
def tcvn : Page where
  asIs := 0x80
  chart := ⟨[
    (0x01, "ÚỤ"), (0x04, "ỪỬỮ"), (0x11, "ỨỰỲỶỸÝỴ"),
    (0x80, "ÀẢÃÁẠẶẬÈẺẼÉẸỆÌỈĨÍỊÒỎÕÓỌỘỜỞỠỚỢÙỦŨ"),
    (0xa0, "\u00a0ĂÂÊÔƠƯĐăâêôơưđẰ\u0300\u0309\u0303\u0301\u0323àảãáạẲằẳẵắẴ"),
    (0xc0, "ẮẦẨẪẤỀặầẩẫấậèỂẻẽéẹềểễếệìỉỄẾỒĩíịòỔỏõóọồổỗốộờởỡớợùỖủũúụừửữứựỳỷỹýỵỐ")]⟩

/-- Latin letters and half-width Katakana. -/
def jisX0201 : Page where
  asIs := 0x80
  chart := ⟨[
    (0x5c, "¥"), (0x7e, "‾"), (0xa1, "｡｢｣､･ｦｧｨｩｪｫｬｭｮｯｰｱｲｳｴｵｶｷｸｹｺｻｼｽｾｿ"),
    (0xc0, "ﾀﾁﾂﾃﾄﾅﾆﾇﾈﾉﾊﾋﾌﾍﾎﾏﾐﾑﾒﾓﾔﾕﾖﾗﾘﾙﾚﾛﾜﾝﾞﾟ")]⟩

/-- Latin letters of Japan. -/
def iso646jp : Page where
  asIs := 0x80
  chart := ⟨[
    (0x5c, "¥"), (0x7e, "‾")]⟩

/-- Latin letters of China. -/
def iso646cn : Page where
  asIs := 0x80
  chart := ⟨[
    (0x24, "¥"), (0x7e, "‾")]⟩

end Iconsmith.Page
