import LinkPreview.Charset.Table

/-!
# Charsets of one byte a character

For each charset the characters of the bytes from 0x80; the bytes below are ASCII.
-/

namespace LinkPreview.Charset.Table

/-- The control characters from 0x80. -/
def controls : List Char :=
  (List.range 32).map fun n => Char.ofNat (0x80 + n)

/-- The table of a charset that has control characters first. -/
def behindControls (rows : List String) : Table :=
  ⟨(controls ++ rows.flatMap String.toList).toArray⟩

/-- The upper half of IBM 866. -/
def ibm866 : Table :=
  ofRows
    ["АБВГДЕЖЗИЙКЛМНОПРСТУФХЦЧШЩЪЫЬЭЮЯабвгдежзийкл",
     "мноп░▒▓│┤╡╢╖╕╣║╗╝╜╛┐└┴┬├─┼╞╟╚╔╩╦╠═╬╧╨╤╥╙╘╒╓╫",
     "╪┘┌█▄▌▐▀рстуфхцчшщъыьэюяЁёЄєЇїЎў°∙·√№¤■\u00a0"]

/-- The upper half of ISO 8859-2. -/
def iso8859part2 : Table :=
  behindControls
    ["\u00a0Ą˘Ł¤ĽŚ§¨ŠŞŤŹ\u00adŽŻ°ą˛ł´ľśˇ¸šşťź˝žżŔÁÂĂÄĹĆÇČÉĘËĚÍÎĎĐŃŇÓÔŐÖ×ŘŮÚŰÜÝŢß",
     "ŕáâăäĺćçčéęëěíîďđńňóôőö÷řůúűüýţ˙"]

/-- The upper half of ISO 8859-3. -/
def iso8859part3 : Table :=
  behindControls
    ["\u00a0Ħ˘£¤.Ĥ§¨İŞĞĴ\u00ad.Ż°ħ²³´µĥ·¸ışğĵ½.żÀÁÂ.ÄĊĈÇÈÉÊËÌÍÎÏ.ÑÒÓÔĠÖ×ĜÙÚÛÜŬŜ",
     "ßàáâ.äċĉçèéêëìíîï.ñòóôġö÷ĝùúûüŭŝ˙"]

/-- The upper half of ISO 8859-4. -/
def iso8859part4 : Table :=
  behindControls
    ["\u00a0ĄĸŖ¤ĨĻ§¨ŠĒĢŦ\u00adŽ¯°ą˛ŗ´ĩļˇ¸šēģŧŊžŋĀÁÂÃÄÅÆĮČÉĘËĖÍÎĪĐŅŌĶÔÕÖ×ØŲÚÛÜ",
     "ŨŪßāáâãäåæįčéęëėíîīđņōķôõö÷øųúûüũū˙"]

/-- The upper half of ISO 8859-5. -/
def iso8859part5 : Table :=
  behindControls
    ["\u00a0ЁЂЃЄЅІЇЈЉЊЋЌ\u00adЎЏАБВГДЕЖЗИЙКЛМНОПРСТУФХЦЧШЩЪЫЬЭ",
     "ЮЯабвгдежзийклмнопрстуфхцчшщъыьэюя№ёђѓєѕіїјљњћќ§ўџ"]

/-- The upper half of ISO 8859-6. -/
def iso8859part6 : Table :=
  behindControls
    ["\u00a0...¤.......،\u00ad.............\u061b...\u061f.\u0621\u0622\u0623\u0624\u0625",
     "\u0626\u0627\u0628\u0629\u062a\u062b\u062c\u062d\u062e\u062f\u0630\u0631\u0632\u0633",
     "\u0634\u0635\u0636\u0637\u0638\u0639\u063a.....\u0640\u0641\u0642\u0643\u0644\u0645",
     "\u0646\u0647\u0648\u0649\u064a\u064b\u064c\u064d\u064e\u064f\u0650\u0651\u0652..........",
     "..."]

/-- The upper half of ISO 8859-7. -/
def iso8859part7 : Table :=
  behindControls
    ["\u00a0‘’£€₯¦§¨©ͺ«¬\u00ad.―°±²³΄΅Ά·ΈΉΊ»Ό½ΎΏΐΑΒΓΔΕΖΗΘΙΚΛΜΝΞΟΠ",
     "Ρ.ΣΤΥΦΧΨΩΪΫάέήίΰαβγδεζηθικλμνξοπρςστυφχψωϊϋόύώ."]

/-- The upper half of ISO 8859-8. -/
def iso8859part8 : Table :=
  behindControls
    ["\u00a0.¢£¤¥¦§¨©×«¬\u00ad®¯°±²³´µ¶·¸¹÷»¼½¾.............................",
     "...‗\u05d0\u05d1\u05d2\u05d3\u05d4\u05d5\u05d6\u05d7\u05d8\u05d9\u05da\u05db\u05dc\u05dd",
     "\u05de\u05df\u05e0\u05e1\u05e2\u05e3\u05e4\u05e5\u05e6\u05e7\u05e8\u05e9\u05ea..\u200e",
     "\u200f."]

/-- The upper half of ISO 8859-10. -/
def iso8859part10 : Table :=
  behindControls
    ["\u00a0ĄĒĢĪĨĶ§ĻĐŠŦŽ\u00adŪŊ°ąēģīĩķ·ļđšŧž―ūŋĀÁÂÃÄÅÆĮČÉĘËĖÍÎÏÐŅŌÓÔÕÖŨØŲÚÛÜÝ",
     "Þßāáâãäåæįčéęëėíîïðņōóôõöũøųúûüýþĸ"]

/-- The upper half of ISO 8859-13. -/
def iso8859part13 : Table :=
  behindControls
    ["\u00a0”¢£¤„¦§Ø©Ŗ«¬\u00ad®Æ°±²³“µ¶·ø¹ŗ»¼½¾æĄĮĀĆÄÅĘĒČÉŹĖĢĶĪĻŠŃŅÓŌÕÖ×Ų",
     "ŁŚŪÜŻŽßąįāćäåęēčéźėģķīļšńņóōõö÷ųłśūüżž’"]

/-- The upper half of ISO 8859-14. -/
def iso8859part14 : Table :=
  behindControls
    ["\u00a0Ḃḃ£ĊċḊ§Ẁ©ẂḋỲ\u00ad®ŸḞḟĠġṀṁ¶ṖẁṗẃṠỳẄẅṡÀÁÂÃÄÅÆÇÈÉÊËÌÍÎÏŴÑÒÓÔÕÖṪØÙÚÛÜÝŶßàáâãäå",
     "æçèéêëìíîïŵñòóôõöṫøùúûüýŷÿ"]

/-- The upper half of ISO 8859-15. -/
def iso8859part15 : Table :=
  behindControls
    ["\u00a0¡¢£€¥Š§š©ª«¬\u00ad®¯°±²³Žµ¶·ž¹º»ŒœŸ¿ÀÁÂÃÄÅÆÇÈÉÊËÌÍÎÏÐÑÒÓÔÕÖ×ØÙ",
     "ÚÛÜÝÞßàáâãäåæçèéêëìíîïðñòóôõö÷øùúûüýþÿ"]

/-- The upper half of ISO 8859-16. -/
def iso8859part16 : Table :=
  behindControls
    ["\u00a0ĄąŁ€„Š§š©Ș«Ź\u00adźŻ°±ČłŽ”¶·žčș»ŒœŸżÀÁÂĂÄĆÆÇÈÉÊËÌÍÎÏĐŃÒÓÔŐÖŚŰÙÚÛÜĘȚß",
     "àáâăäćæçèéêëìíîïđńòóôőöśűùúûüęțÿ"]

/-- The upper half of KOI8-R. -/
def koi8r : Table :=
  ofRows
    ["─│┌┐└┘├┤┬┴┼▀▄█▌▐░▒▓⌠■∙√≈≤≥\u00a0⌡°²·÷═║╒ё╓╔╕╖╗╘╙╚",
     "╛╜╝╞╟╠╡Ё╢╣╤╥╦╧╨╩╪╫╬©юабцдефгхийклмнопярстужв",
     "ьызшэщчъЮАБЦДЕФГХИЙКЛМНОПЯРСТУЖВЬЫЗШЭЩЧЪ"]

/-- The upper half of KOI8-U. -/
def koi8u : Table :=
  ofRows
    ["─│┌┐└┘├┤┬┴┼▀▄█▌▐░▒▓⌠■∙√≈≤≥\u00a0⌡°²·÷═║╒ёє╔ії╗╘╙╚╛ґў",
     "╞╟╠╡ЁЄ╣ІЇ╦╧╨╩╪ҐЎ©юабцдефгхийклмнопярстужвьызшэщ",
     "чъЮАБЦДЕФГХИЙКЛМНОПЯРСТУЖВЬЫЗШЭЩЧЪ"]

/-- The upper half of Mac OS Roman. -/
def macintosh : Table :=
  ofRows
    ["ÄÅÇÉÑÖÜáàâäãåçéèêëíìîïñóòôöõúùûü†°¢£§•¶ß®©™´¨≠ÆØ∞±≤≥¥µ∂∑",
     "∏π∫ªºΩæø¿¡¬√ƒ≈∆«»…\u00a0ÀÃÕŒœ–—“”‘’÷◊ÿŸ⁄€‹›ﬁﬂ‡·‚„‰ÂÊÁËÈÍÎÏÌÓÔ",
     "\uf8ffÒÚÛÙıˆ˜¯˘˙˚¸˝˛ˇ"]

/-- The upper half of Windows 874. -/
def windows874 : Table :=
  ofRows
    ["€\u0081\u0082\u0083\u0084…\u0086\u0087\u0088\u0089\u008a\u008b\u008c\u008d\u008e\u008f",
     "\u0090‘’“”•–—\u0098\u0099\u009a\u009b\u009c\u009d\u009e\u009f\u00a0กขฃคฅฆงจฉชซฌญฎ",
     "ฏฐฑฒณดตถทธนบปผฝพฟภมยรฤลฦวศษสหฬอฮฯะ\u0e31าำ\u0e34\u0e35\u0e36\u0e37\u0e38\u0e39\u0e3a....",
     "฿เแโใไๅๆ\u0e47\u0e48\u0e49\u0e4a\u0e4b\u0e4c\u0e4d\u0e4e๏๐๑๒๓๔๕๖๗๘๙๚๛...."]

/-- The upper half of Windows 1250. -/
def windows1250 : Table :=
  ofRows
    ["€\u0081‚\u0083„…†‡\u0088‰Š‹ŚŤŽŹ\u0090‘’“”•–—\u0098™š›śťžź\u00a0ˇ˘Ł¤Ą¦§",
     "¨©Ş«¬\u00ad®Ż°±˛ł´µ¶·¸ąş»Ľ˝ľżŔÁÂĂÄĹĆÇČÉĘËĚÍÎĎĐŃŇÓÔŐÖ×ŘŮÚŰÜÝŢßŕáâăäĺćçčéęë",
     "ěíîďđńňóôőö÷řůúűüýţ˙"]

/-- The upper half of Windows 1251. -/
def windows1251 : Table :=
  ofRows
    ["ЂЃ‚ѓ„…†‡€‰Љ‹ЊЌЋЏђ‘’“”•–—\u0098™љ›њќћџ\u00a0ЎўЈ¤Ґ¦§Ё©Є«¬\u00ad®Ї°±Ііґµ",
     "¶·ё№є»јЅѕїАБВГДЕЖЗИЙКЛМНОПРСТУФХЦЧШЩЪЫЬЭЮЯабвгд",
     "ежзийклмнопрстуфхцчшщъыьэюя"]

/-- The upper half of Windows 1252. -/
def windows1252 : Table :=
  ofRows
    ["€\u0081‚ƒ„…†‡ˆ‰Š‹Œ\u008dŽ\u008f\u0090‘’“”•–—˜™š›œ\u009džŸ\u00a0¡¢£¤¥¦§",
     "¨©ª«¬\u00ad®¯°±²³´µ¶·¸¹º»¼½¾¿ÀÁÂÃÄÅÆÇÈÉÊËÌÍÎÏÐÑÒÓÔÕÖ×ØÙÚÛÜÝÞßàá",
     "âãäåæçèéêëìíîïðñòóôõö÷øùúûüýþÿ"]

/-- The upper half of Windows 1253. -/
def windows1253 : Table :=
  ofRows
    ["€\u0081‚ƒ„…†‡\u0088‰\u008a‹\u008c\u008d\u008e\u008f\u0090‘’“”•–—\u0098™",
     "\u009a›\u009c\u009d\u009e\u009f\u00a0΅Ά£¤¥¦§¨©.«¬\u00ad®―°±²³΄µ¶·ΈΉΊ»Ό½ΎΏΐΑ",
     "ΒΓΔΕΖΗΘΙΚΛΜΝΞΟΠΡ.ΣΤΥΦΧΨΩΪΫάέήίΰαβγδεζηθικλμνξοπρ",
     "ςστυφχψωϊϋόύώ."]

/-- The upper half of Windows 1254. -/
def windows1254 : Table :=
  ofRows
    ["€\u0081‚ƒ„…†‡ˆ‰Š‹Œ\u008d\u008e\u008f\u0090‘’“”•–—˜™š›œ\u009d\u009eŸ\u00a0",
     "¡¢£¤¥¦§¨©ª«¬\u00ad®¯°±²³´µ¶·¸¹º»¼½¾¿ÀÁÂÃÄÅÆÇÈÉÊËÌÍÎÏĞÑÒÓÔÕÖ×ØÙÚÛÜ",
     "İŞßàáâãäåæçèéêëìíîïğñòóôõö÷øùúûüışÿ"]

/-- The upper half of Windows 1255. -/
def windows1255 : Table :=
  ofRows
    ["€\u0081‚ƒ„…†‡ˆ‰\u008a‹\u008c\u008d\u008e\u008f\u0090‘’“”•–—˜™\u009a›\u009c",
     "\u009d\u009e\u009f\u00a0¡¢£₪¥¦§¨©×«¬\u00ad®¯°±²³´µ¶·¸¹÷»¼½¾¿\u05b0",
     "\u05b1\u05b2\u05b3\u05b4\u05b5\u05b6\u05b7\u05b8\u05b9.\u05bb\u05bc\u05bd\u05be\u05bf",
     "\u05c0\u05c1\u05c2\u05c3\u05f0\u05f1\u05f2\u05f3\u05f4.......\u05d0\u05d1\u05d2\u05d3",
     "\u05d4\u05d5\u05d6\u05d7\u05d8\u05d9\u05da\u05db\u05dc\u05dd\u05de\u05df\u05e0\u05e1",
     "\u05e2\u05e3\u05e4\u05e5\u05e6\u05e7\u05e8\u05e9\u05ea..\u200e\u200f."]

/-- The upper half of Windows 1256. -/
def windows1256 : Table :=
  ofRows
    ["€\u067e‚ƒ„…†‡ˆ‰\u0679‹Œ\u0686\u0698\u0688\u06af‘’“”•–—\u06a9™\u0691›œ",
     "\u200c\u200d\u06ba\u00a0،¢£¤¥¦§¨©\u06be«¬\u00ad®¯°±²³´µ¶·¸¹\u061b»¼½¾",
     "\u061f\u06c1\u0621\u0622\u0623\u0624\u0625\u0626\u0627\u0628\u0629\u062a\u062b\u062c",
     "\u062d\u062e\u062f\u0630\u0631\u0632\u0633\u0634\u0635\u0636×\u0637\u0638\u0639\u063a",
     "\u0640\u0641\u0642\u0643à\u0644â\u0645\u0646\u0647\u0648çèéêë\u0649\u064aîï\u064b",
     "\u064c\u064d\u064eô\u064f\u0650÷\u0651ù\u0652ûü\u200e\u200f\u06d2"]

/-- The upper half of Windows 1257. -/
def windows1257 : Table :=
  ofRows
    ["€\u0081‚\u0083„…†‡\u0088‰\u008a‹\u008c¨ˇ¸\u0090‘’“”•–—\u0098™\u009a›",
     "\u009c¯˛\u009f\u00a0.¢£¤.¦§Ø©Ŗ«¬\u00ad®Æ°±²³´µ¶·ø¹ŗ»¼½¾æĄĮĀĆÄÅĘĒČÉŹĖĢ",
     "ĶĪĻŠŃŅÓŌÕÖ×ŲŁŚŪÜŻŽßąįāćäåęēčéźėģķīļšńņóōõö÷ųłśūüżž˙"]

/-- The upper half of Windows 1258. -/
def windows1258 : Table :=
  ofRows
    ["€\u0081‚ƒ„…†‡ˆ‰\u008a‹Œ\u008d\u008e\u008f\u0090‘’“”•–—˜™\u009a›œ\u009d",
     "\u009eŸ\u00a0¡¢£¤¥¦§¨©ª«¬\u00ad®¯°±²³´µ¶·¸¹º»¼½¾¿ÀÁÂĂÄÅÆÇÈÉÊË\u0300",
     "ÍÎÏĐÑ\u0309ÓÔƠÖ×ØÙÚÛÜƯ\u0303ßàáâăäåæçèéêë\u0301íîïđñ\u0323óôơö÷øùúûüư₫ÿ"]

/-- The upper half of Mac OS Cyrillic. -/
def macCyrillic : Table :=
  ofRows
    ["АБВГДЕЖЗИЙКЛМНОПРСТУФХЦЧШЩЪЫЬЭЮЯ†°Ґ£§•¶І®©™Ђђ≠Ѓѓ",
     "∞±≤≥іµґЈЄєЇїЉљЊњјЅ¬√ƒ≈∆«»…\u00a0ЋћЌќѕ–—“”‘’÷„ЎўЏџ№Ёёяабвгдежз",
     "ийклмнопрстуфхцчшщъыьэю€"]

end LinkPreview.Charset.Table
