import Iconsmith.Charset.Basic
import Iconsmith.Charset.Chart

set_option autoImplicit false

/-!
# Pages

A page is a character set of single bytes. Up to some byte, a byte that is not in the
chart of the page stands for the character of its number.
-/

namespace Iconsmith

/-- A page: the byte up to which bytes stand for themselves, and the chart of the others. -/
structure Page where
  asIs : Nat
  chart : Chart

namespace Page

/-- The character of a byte. The chart comes first. -/
def char? (p : Page) (b : UInt8) : Option Char :=
  match p.chart.char? b.toNat with
  | some c => some c
  | none => if b.toNat < p.asIs then some (Char.ofNat b.toNat) else none

/-- The character set of a page. -/
def charset (p : Page) : Charset := .ofBytes p.char?

/-! ## Accents that follow their letters -/

/-- Accents, with letters and the same letters that bear the accent. -/
def accented : List (Char × String × String) := [
  ('\u0300', "AEINOUWYaeinouwy¨ÂÊÔÜâêôüĂăĒēŌōƠơƯư",
    "ÀÈÌǸÒÙẀỲàèìǹòùẁỳ῭ẦỀỒǛầềồǜẰằḔḕṐṑỜờỪừ"),
  ('\u0301', "ACEGIKLMNOPRSUWYZacegiklmnoprsuwyz¨ÂÅÆÇÊÏÔÕØÜâåæçêïôõøüĂăĒēŌōŨũƠơƯư",
    "ÁĆÉǴÍḰĹḾŃÓṔŔŚÚẂÝŹáćéǵíḱĺḿńóṕŕśúẃýź΅ẤǺǼḈẾḮỐṌǾǗấǻǽḉếḯốṍǿǘẮắḖḗṒṓṸṹỚớỨứ"),
  ('\u0303', "AEINOUVYaeinouvyÂÊÔâêôĂăƠơƯư", "ÃẼĨÑÕŨṼỸãẽĩñõũṽỹẪỄỖẫễỗẴẵỠỡỮữ"),
  ('\u0309', "AEIOUYaeiouyÂÊÔâêôĂăƠơƯư", "ẢẺỈỎỦỶảẻỉỏủỷẨỂỔẩểổẲẳỞởỬử"),
  ('\u0323', "ABDEHIKLMNORSTUVWYZabdehiklmnorstuvwyzÂÊÔâêôĂăƠơƯư",
    "ẠḄḌẸḤỊḲḶṂṆỌṚṢṬỤṾẈỴẒạḅḍẹḥịḳḷṃṇọṛṣṭụṿẉỵẓẬỆỘậệộẶặỢợỰự")]

/-- A letter with an accent, as one character. -/
def withAccent? (letter accent : Char) : Option Char :=
  (accented.lookup accent).bind fun (letters, results) =>
    (letters.toList.zip results.toList).lookup letter

/-- The machine that reads a page and joins accents to the letters before them. It holds
the last character until the next one is known. -/
def accentMachine (p : Page) : Charset.Machine (Option Char) where
  start := none
  step := fun held b => (p.char? b).map fun c =>
    match held with
    | none => ([], some c)
    | some letter =>
        match withAccent? letter c with
        | some joined => ([joined], none)
        | none => ([letter], some c)
  finish := fun held => some held.toList

/-- The character set of a page whose accents are joined to the letters before them. -/
def accentCharset (p : Page) : Charset := p.accentMachine.charset

end Page
end Iconsmith
