/-!
The characters that a domain name holds in another form: capitals in lower case, and characters that
differ from others only in width, style or place in the form of those others.
-/

namespace LightningDeposit.Url.Domain

/-- Runs of characters with one character in place of each: the first code point of a run, the step
from one to the next, and what stands for them. -/
def replacementRuns : List (Nat × Nat × String) := [
  (0xA0, 1, " "), (0xAA, 1, "a"), (0xB2, 1, "23"), (0xB5, 1, "μ"), (0xB9, 1, "1o"),
  (0xC0, 1, "àáâãäåæçèéêëìíîïðñòóôõö"), (0xD8, 1, "øùúûüýþ"),
  (0x100, 2, "āăąćĉċčďđēĕėęěĝğġģĥħĩīĭį"), (0x134, 2, "ĵķ"), (0x139, 2, "ĺļľ"), (0x141, 2, "łńņň"),
  (0x14A, 2, "ŋōŏőœŕŗřśŝşšţťŧũūŭůűųŵŷ"), (0x178, 1, "ÿź"), (0x17B, 2, "żžs"), (0x181, 1, "ɓƃ"),
  (0x184, 1, "ƅ"), (0x186, 1, "ɔƈ"), (0x189, 1, "ɖɗƌ"), (0x18E, 1, "ǝəɛƒ"), (0x193, 1, "ɠɣ"),
  (0x196, 1, "ɩɨƙ"), (0x19C, 1, "ɯɲ"), (0x19F, 1, "ɵơ"), (0x1A2, 2, "ƣƥ"), (0x1A6, 1, "ʀƨ"),
  (0x1A9, 1, "ʃ"), (0x1AC, 1, "ƭ"), (0x1AE, 1, "ʈư"), (0x1B1, 1, "ʊʋƴ"), (0x1B5, 1, "ƶ"),
  (0x1B7, 1, "ʒƹ"), (0x1BC, 1, "ƽ"), (0x1CD, 2, "ǎǐǒǔǖǘǚǜ"), (0x1DE, 2, "ǟǡǣǥǧǩǫǭǯ"),
  (0x1F4, 1, "ǵ"), (0x1F6, 1, "ƕƿǹ"), (0x1FA, 2, "ǻǽǿȁȃȅȇȉȋȍȏȑȓȕȗșțȝȟƞȣȥȧȩȫȭȯȱȳ"), (0x23A, 1, "ⱥȼ"),
  (0x23D, 1, "ƚⱦ"), (0x241, 1, "ɂ"), (0x243, 1, "ƀʉʌɇ"), (0x248, 2, "ɉɋɍɏ"),
  (0x2B0, 1, "hɦjrɹɻʁwy"), (0x2E0, 1, "ɣlsxʕ"), (0x345, 1, "ι"), (0x370, 2, "ͱͳ"), (0x376, 1, "ͷ"),
  (0x37F, 1, "ϳ"), (0x386, 1, "ά"), (0x388, 1, "έήί"), (0x38C, 1, "ό"), (0x38E, 1, "ύώ"),
  (0x391, 1, "αβγδεζηθικλμνξοπρ"), (0x3A3, 1, "στυφχψωϊϋ"), (0x3CF, 1, "ϗβθυύϋφπ"),
  (0x3D8, 2, "ϙϛϝϟϡϣϥϧϩϫϭϯ"), (0x3F0, 1, "κρσ"), (0x3F4, 1, "θε"), (0x3F7, 1, "ϸ"),
  (0x3F9, 1, "σϻ"), (0x3FD, 1, "ͻͼͽѐёђѓєѕіїјљњћќѝўџабвгдежзийклмнопрстуфхцчшщъыьэюя"),
  (0x460, 2, "ѡѣѥѧѩѫѭѯѱѳѵѷѹѻѽѿҁ"), (0x48A, 2, "ҋҍҏґғҕҗҙқҝҟҡңҥҧҩҫҭүұҳҵҷҹһҽҿ"), (0x4C0, 1, "ӏӂ"),
  (0x4C3, 2, "ӄӆӈӊӌӎ"), (0x4D0, 2, "ӑӓӕӗәӛӝӟӡӣӥӧөӫӭӯӱӳӵӷӹӻӽӿԁԃԅԇԉԋԍԏԑԓԕԗԙԛԝԟԡԣԥԧԩԫԭԯ"),
  (0x531, 1, "աբգդեզէըթժիլխծկհձղճմյնշոչպջռսվտրցւփքօֆ"), (0x558, 1, "է"), (0x58B, 1, "ի"),
  (0xF0C, 1, "་"), (0x10A0, 1, "ⴀⴁⴂⴃⴄⴅⴆⴇⴈⴉⴊⴋⴌⴍⴎⴏⴐⴑⴒⴓⴔⴕⴖⴗⴘⴙⴚⴛⴜⴝⴞⴟⴠⴡⴢⴣⴤⴥ"), (0x10C7, 1, "ⴧ"),
  (0x10CD, 1, "ⴭ"), (0x10FC, 1, "ნ"), (0x13F8, 1, "ᏰᏱᏲᏳᏴᏵ"), (0x1C80, 1, "вдосттъѣꙋᲊ"),
  (0x1C90, 1, "აბგდევზთიკლმნოპჟრსტუფქღყშჩცძწჭხჯჰჱჲჳჴჵჶჷჸჹჺ"), (0x1CBD, 1, "ჽჾჿ"),
  (0x1D2C, 1, "aæb"), (0x1D30, 1, "deǝghijklmn"), (0x1D3C, 1, "oȣprtuwaɐɑᴂbdeəɛɜg"),
  (0x1D4F, 1, "kmŋoɔᴖᴗptuᴝɯvᴥβγδφχiruvβγρφχ"), (0x1D78, 1, "н"),
  (0x1D9B, 1, "ɒcɕðɜfɟɡɥɨɩɪᵻʝɭᶅʟɱɰɲɳɴɵɸʂʃƫʉʊᴜʋʌzʐʑʒθ"),
  (0x1E00, 2, "ḁḃḅḇḉḋḍḏḑḓḕḗḙḛḝḟḡḣḥḧḩḫḭḯḱḳḵḷḹḻḽḿṁṃṅṇṉṋṍṏṑṓṕṗṙṛṝṟṡṣṥṧṩṫṭṯṱṳṵṷṹṻṽṿẁẃẅẇẉẋẍẏẑẓẕ"),
  (0x1E9B, 1, "ṡ"), (0x1E9E, 2, "ßạảấầẩẫậắằẳẵặẹẻẽếềểễệỉịọỏốồổỗộớờởỡợụủứừửữựỳỵỷỹỻỽỿ"),
  (0x1F08, 1, "ἀἁἂἃἄἅἆἇ"), (0x1F18, 1, "ἐἑἒἓἔἕ"), (0x1F28, 1, "ἠἡἢἣἤἥἦἧ"), (0x1F38, 1, "ἰἱἲἳἴἵἶἷ"),
  (0x1F48, 1, "ὀὁὂὃὄὅ"), (0x1F59, 2, "ὑὓὕὗ"), (0x1F68, 1, "ὠὡὢὣὤὥὦὧ"), (0x1FB8, 1, "ᾰᾱὰά"),
  (0x1FC8, 1, "ὲέὴή"), (0x1FD8, 1, "ῐῑὶί"), (0x1FE8, 1, "ῠῡὺύῥ"), (0x1FF8, 1, "ὸόὼώ"),
  (0x2000, 1, "           "), (0x2011, 1, "‐"), (0x202F, 1, " "), (0x205F, 1, " "),
  (0x2070, 1, "0i"), (0x2074, 1, "456789+−=()n0123456789+−=()"), (0x2090, 1, "aeoxəhklmnpst"),
  (0x209D, 1, "wyz"), (0x2102, 1, "c"), (0x2107, 1, "ɛ"), (0x210A, 1, "ghhhhħiill"),
  (0x2115, 1, "n"), (0x2119, 1, "pqrrr"), (0x2124, 2, "zωz"), (0x212A, 1, "kåbc"),
  (0x212F, 1, "eefⅎmo\u05d0\u05d1\u05d2\u05d3i"), (0x213C, 1, "πγγπ∑"), (0x2145, 1, "ddeij"),
  (0x2160, 1, "i"), (0x2164, 1, "v"), (0x2169, 1, "x"), (0x216C, 1, "lcdmi"), (0x2174, 1, "v"),
  (0x2179, 1, "x"), (0x217C, 1, "lcdm"), (0x2183, 1, "ↄ"), (0x2460, 1, "123456789"),
  (0x24B6, 1, "abcdefghijklmnopqrstuvwxyzabcdefghijklmnopqrstuvwxyz0"),
  (0x2C00, 1, "ⰰⰱⰲⰳⰴⰵⰶⰷⰸⰹⰺⰻⰼⰽⰾⰿⱀⱁⱂⱃⱄⱅⱆⱇⱈⱉⱊⱋⱌⱍⱎⱏⱐⱑⱒⱓⱔⱕⱖⱗⱘⱙⱚⱛⱜⱝⱞⱟ"), (0x2C60, 1, "ⱡ"),
  (0x2C62, 1, "ɫᵽɽ"), (0x2C67, 2, "ⱨⱪⱬ"), (0x2C6D, 1, "ɑɱɐɒ"), (0x2C72, 1, "ⱳ"), (0x2C75, 1, "ⱶ"),
  (0x2C7C, 1, "jvȿɀⲁ"), (0x2C82, 2, "ⲃⲅⲇⲉⲋⲍⲏⲑⲓⲕⲗⲙⲛⲝⲟⲡⲣⲥⲧⲩⲫⲭⲯⲱⲳⲵⲷⲹⲻⲽⲿⳁⳃⳅⳇⳉⳋⳍⳏⳑⳓⳕⳗⳙⳛⳝⳟⳡⳣ"),
  (0x2CEB, 2, "ⳬⳮ"), (0x2CF2, 1, "ⳳ"), (0x2D6F, 1, "ⵡ"), (0x2E9F, 1, "母"), (0x2EF3, 1, "龟"),
  (0x2F00, 1, "一丨丶丿乙亅二亠人儿入八冂冖冫几凵刀力勹匕匚匸十卜卩厂厶又口囗土士夂夊夕大女子宀寸小尢尸屮山巛工己巾干幺广廴廾弋弓彐彡彳心戈戶手支攴文斗斤方无日曰月木欠止歹殳毋"),
  (0x2F50, 1, "比毛氏气水火爪父爻爿片牙牛犬玄玉瓜瓦甘生用田疋疒癶白皮皿目矛矢石示禸禾穴立竹米糸缶网羊羽老而耒耳聿肉臣自至臼舌舛舟艮色艸虍虫血行衣襾見角言谷豆豕豸貝赤走足身車辛"),
  (0x2FA0, 1, "辰辵邑酉釆里金長門阜隶隹雨靑非面革韋韭音頁風飛食首香馬骨高髟鬥鬯鬲鬼魚鳥鹵鹿麥麻黃黍黑黹黽鼎鼓鼠鼻齊齒龍龜龠"), (0x3000, 2, " ."),
  (0x3036, 1, "〒"), (0x3038, 1, "十卄卅"),
  (0x3131, 1, "ᄀᄁᆪᄂᆬᆭᄃᄄᄅᆰᆱᆲᆳᆴᆵᄚᄆᄇᄈᄡᄉᄊᄋᄌᄍᄎᄏᄐᄑ하ᅢᅣᅤᅥᅦᅧᅨᅩᅪᅫᅬᅭᅮᅯᅰᅱᅲᅳᅴᅵ"),
  (0x3165, 1, "ᄔᄕᇇᇈᇌᇎᇓᇗᇙᄜᇝᇟᄝᄞᄠᄢᄣᄧᄩᄫᄬᄭᄮᄯᄲᄶᅀᅇᅌᇱᇲᅗᅘᅙᆄᆅᆈᆑᆒᆔᆞᆡ"), (0x3192, 1, "一二三四上中下甲乙丙丁天地人"),
  (0x3244, 1, "問幼文箏"), (0x3260, 1, "ᄀᄂᄃᄅᄆᄇᄉᄋᄌᄎᄏᄐᄑᄒ가나다라마바사아자차카타파하"), (0x327E, 1, "우"),
  (0x3280, 1, "一二三四五六七八九十月火水木金土日株有社名特財祝労秘男女適優印注項休写正上中下左右医宗学監企資協夜"),
  (0x32D0, 1, "アイウエオカキクケコサシスセソタチツテトナニヌネノハヒフヘホマミムメモヤユヨラリルレロワヰヱヲ"),
  (0xA640, 2, "ꙁꙃꙅꙇꙉꙋꙍꙏꙑꙓꙕꙗꙙꙛꙝꙟꙡꙣꙥꙧꙩꙫꙭ"), (0xA680, 2, "ꚁꚃꚅꚇꚉꚋꚍꚏꚑꚓꚕꚗꚙꚛ"), (0xA69C, 1, "ъь"),
  (0xA722, 2, "ꜣꜥꜧꜩꜫꜭꜯ"), (0xA732, 2, "ꜳꜵꜷꜹꜻꜽꜿꝁꝃꝅꝇꝉꝋꝍꝏꝑꝓꝕꝗꝙꝛꝝꝟꝡꝣꝥꝧꝩꝫꝭꝯꝯ"), (0xA779, 2, "ꝺꝼ"),
  (0xA77D, 1, "ᵹꝿ"), (0xA780, 2, "ꞁꞃꞅꞇ"), (0xA78B, 2, "ꞌɥ"), (0xA790, 2, "ꞑꞓ"),
  (0xA796, 2, "ꞗꞙꞛꞝꞟꞡꞣꞥꞧꞩ"), (0xA7AA, 1, "ɦɜɡɬɪ"), (0xA7B0, 1, "ʞʇʝꭓꞵ"), (0xA7B6, 2, "ꞷꞹꞻꞽꞿꟁꟃ"),
  (0xA7C4, 1, "ꞔʂᶎꟈ"), (0xA7C9, 1, "ꟊ"), (0xA7CB, 1, "ɤꟍ"), (0xA7CE, 2, "꟏ꟑꟓꟕꟗꟙꟛƛ"),
  (0xA7DD, 1, "ɷ"), (0xA7DE, 2, "꟟꟡ɼ"), (0xA7F1, 1, "scfqꟶ"), (0xA7F8, 1, "ħœ"),
  (0xAB5C, 1, "ꜧꬷɫꭒ"), (0xAB69, 1, "ʍ"), (0xAB6C, 1, "ꭋꭌ"),
  (0xAB70, 1, "ᎠᎡᎢᎣᎤᎥᎦᎧᎨᎩᎪᎫᎬᎭᎮᎯᎰᎱᎲᎳᎴᎵᎶᎷᎸᎹᎺᎻᎼᎽᎾᎿᏀᏁᏂᏃᏄᏅᏆᏇᏈᏉᏊᏋᏌᏍᏎᏏᏐᏑᏒᏓᏔᏕᏖᏗᏘᏙᏚᏛᏜᏝᏞᏟᏠᏡᏢᏣᏤᏥᏦᏧᏨᏩᏪᏫᏬᏭᏮᏯ"),
  (0xFB20, 1, "\u05e2\u05d0\u05d3\u05d4\u05db\u05dc\u05dd\u05e8\u05ea+"),
  (0xFB50, 1, "\u0671\u0671\u067b\u067b\u067b\u067b\u067e\u067e\u067e\u067e\u0680\u0680\u0680"),
  (0xFB5D, 1, "\u0680\u067a\u067a\u067a\u067a\u067f\u067f\u067f\u067f\u0679\u0679\u0679\u0679"),
  (0xFB6A, 1, "\u06a4\u06a4\u06a4\u06a4\u06a6\u06a6\u06a6\u06a6\u0684\u0684\u0684\u0684\u0683"),
  (0xFB77, 1, "\u0683\u0683\u0683\u0686\u0686\u0686\u0686\u0687\u0687\u0687\u0687\u068d\u068d"),
  (0xFB84, 1, "\u068c\u068c\u068e\u068e\u0688\u0688\u0698\u0698\u0691\u0691\u06a9\u06a9\u06a9"),
  (0xFB91, 1, "\u06a9\u06af\u06af\u06af\u06af\u06b3\u06b3\u06b3\u06b3\u06b1\u06b1\u06b1\u06b1"),
  (0xFB9E, 1, "\u06ba\u06ba\u06bb\u06bb\u06bb\u06bb\u06c0\u06c0\u06c1\u06c1\u06c1\u06c1\u06be"),
  (0xFBAB, 1, "\u06be\u06be\u06be\u06d2\u06d2\u06d3\u06d3"),
  (0xFBD3, 1, "\u06ad\u06ad\u06ad\u06ad\u06c7\u06c7\u06c6\u06c6\u06c8\u06c8"),
  (0xFBDE, 1, "\u06cb\u06cb\u06c5\u06c5\u06c9\u06c9\u06d0\u06d0\u06d0\u06d0\u0649\u0649"),
  (0xFBFC, 1, "\u06cc\u06cc\u06cc\u06cc"), (0xFE10, 1, ",、"), (0xFE13, 1, ":;!?〖〗"),
  (0xFE31, 1, "—–__()\x7b\x7d〔〕【】《》〈〉「」『』"), (0xFE47, 1, "[]"), (0xFE4D, 1, "___,、"),
  (0xFE54, 1, ";:?!—()\x7b\x7d〔〕#&*+-<>="), (0xFE68, 1, "\\$%@"),
  (0xFE80, 1, "\u0621\u0622\u0622\u0623\u0623\u0624\u0624\u0625\u0625\u0626\u0626\u0626\u0626"),
  (0xFE8D, 1, "\u0627\u0627\u0628\u0628\u0628\u0628\u0629\u0629\u062a\u062a\u062a\u062a\u062b"),
  (0xFE9A, 1, "\u062b\u062b\u062b\u062c\u062c\u062c\u062c\u062d\u062d\u062d\u062d\u062e\u062e"),
  (0xFEA7, 1, "\u062e\u062e\u062f\u062f\u0630\u0630\u0631\u0631\u0632\u0632\u0633\u0633\u0633"),
  (0xFEB4, 1, "\u0633\u0634\u0634\u0634\u0634\u0635\u0635\u0635\u0635\u0636\u0636\u0636\u0636"),
  (0xFEC1, 1, "\u0637\u0637\u0637\u0637\u0638\u0638\u0638\u0638\u0639\u0639\u0639\u0639\u063a"),
  (0xFECE, 1, "\u063a\u063a\u063a\u0641\u0641\u0641\u0641\u0642\u0642\u0642\u0642\u0643\u0643"),
  (0xFEDB, 1, "\u0643\u0643\u0644\u0644\u0644\u0644\u0645\u0645\u0645\u0645\u0646\u0646\u0646"),
  (0xFEE8, 1, "\u0646\u0647\u0647\u0647\u0647\u0648\u0648\u0649\u0649\u064a\u064a\u064a\u064a"),
  (0xFF01, 1, "!\"#$%&'()*+,-./0123456789:;<=>?@abcdefghijklmnopqrstuvwxyz[\\]^_`abcdefghijklmn"),
  (0xFF4F, 1, "opqrstuvwxyz\x7b|\x7d~⦅⦆.「」、・ヲァィゥェォャュョッーアイウエオカキクケコサシスセソタチツテトナニヌネノハヒフヘホマミムメモヤユヨラリ"),
  (0xFF99, 1, "ルレロワン\u3099\u309a"), (0xFFA1, 1, "ᄀᄁᆪᄂᆬᆭᄃᄄᄅᆰᆱᆲᆳᆴᆵᄚᄆᄇᄈᄡᄉᄊᄋᄌᄍᄎᄏᄐᄑᄒ"),
  (0xFFC2, 1, "ᅡᅢᅣᅤᅥᅦ"), (0xFFCA, 1, "ᅧᅨᅩᅪᅫᅬ"), (0xFFD2, 1, "ᅭᅮᅯᅰᅱᅲ"), (0xFFDA, 1, "ᅳᅴᅵ"),
  (0xFFE0, 1, "¢£¬"), (0xFFE4, 1, "¦¥₩"), (0xFFE8, 1, "│←↑→↓■○"),
  (0x10400, 1, "𐐨𐐩𐐪𐐫𐐬𐐭𐐮𐐯𐐰𐐱𐐲𐐳𐐴𐐵𐐶𐐷𐐸𐐹𐐺𐐻𐐼𐐽𐐾𐐿𐑀𐑁𐑂𐑃𐑄𐑅𐑆𐑇𐑈𐑉𐑊𐑋𐑌𐑍𐑎𐑏"),
  (0x104B0, 1, "𐓘𐓙𐓚𐓛𐓜𐓝𐓞𐓟𐓠𐓡𐓢𐓣𐓤𐓥𐓦𐓧𐓨𐓩𐓪𐓫𐓬𐓭𐓮𐓯𐓰𐓱𐓲𐓳𐓴𐓵𐓶𐓷𐓸𐓹𐓺𐓻"), (0x10570, 1, "𐖗𐖘𐖙𐖚𐖛𐖜𐖝𐖞𐖟𐖠𐖡"),
  (0x1057C, 1, "𐖣𐖤𐖥𐖦𐖧𐖨𐖩𐖪𐖫𐖬𐖭𐖮𐖯𐖰𐖱"), (0x1058C, 1, "𐖳𐖴𐖵𐖶𐖷𐖸𐖹"), (0x10594, 1, "𐖻𐖼"),
  (0x10781, 1, "ːˑæʙɓ"), (0x10787, 1, "ʣꭦʥʤɖɗᶑɘɞʩɤɢɠʛħʜɧʄʪʫɬ𝼄ꞎɮ𝼅ʎ𝼆øɶɷqɺ𝼈ɽɾʀʨʦꭧʧʈⱱ"),
  (0x107B2, 1, "ʏʡʢʘǀǁǂ𝼊𝼞"), (0x107BB, 1, "ʇʖʗʞ𝼋"),
  (0x10C80, 1, "𐳀𐳁𐳂𐳃𐳄𐳅𐳆𐳇𐳈𐳉𐳊𐳋𐳌𐳍𐳎𐳏𐳐𐳑𐳒𐳓𐳔𐳕𐳖𐳗𐳘𐳙𐳚𐳛𐳜𐳝𐳞𐳟𐳠𐳡𐳢𐳣𐳤𐳥𐳦𐳧𐳨𐳩𐳪𐳫𐳬𐳭𐳮𐳯𐳰𐳱𐳲"),
  (0x10D50, 1, "𐵰𐵱𐵲𐵳𐵴𐵵𐵶𐵷𐵸𐵹𐵺𐵻𐵼𐵽𐵾𐵿𐶀𐶁𐶂𐶃𐶄𐶅"), (0x118A0, 1, "𑣀𑣁𑣂𑣃𑣄𑣅𑣆𑣇𑣈𑣉𑣊𑣋𑣌𑣍𑣎𑣏𑣐𑣑𑣒𑣓𑣔𑣕𑣖𑣗𑣘𑣙𑣚𑣛𑣜𑣝𑣞𑣟"),
  (0x16E40, 1, "𖹠𖹡𖹢𖹣𖹤𖹥𖹦𖹧𖹨𖹩𖹪𖹫𖹬𖹭𖹮𖹯𖹰𖹱𖹲𖹳𖹴𖹵𖹶𖹷𖹸𖹹𖹺𖹻𖹼𖹽𖹾𖹿"), (0x16EA0, 1, "𖺻𖺼𖺽𖺾𖺿𖻀𖻁𖻂𖻃𖻄𖻅𖻆𖻇𖻈𖻉𖻊𖻋𖻌𖻍𖻎𖻏𖻐𖻑𖻒𖻓"),
  (0x1CCD6, 1, "abcdefghijklmnopqrstuvwxyz0123456789"),
  (0x1D400, 1, "abcdefghijklmnopqrstuvwxyzabcdefghijklmnopqrstuvwxyzabcdefghijklmnopqrstuvwxyzab"),
  (0x1D450, 1, "cdefg"),
  (0x1D456, 1, "ijklmnopqrstuvwxyzabcdefghijklmnopqrstuvwxyzabcdefghijklmnopqrstuvwxyza"),
  (0x1D49E, 1, "cd"), (0x1D4A2, 1, "g"), (0x1D4A5, 1, "jk"), (0x1D4A9, 1, "nopq"),
  (0x1D4AE, 1, "stuvwxyzabcd"), (0x1D4BB, 1, "f"), (0x1D4BD, 1, "hijklmn"),
  (0x1D4C5, 1, "pqrstuvwxyzabcdefghijklmnopqrstuvwxyzabcdefghijklmnopqrstuvwxyzab"),
  (0x1D507, 1, "defg"), (0x1D50D, 1, "jklmnopq"), (0x1D516, 1, "stuvwxy"),
  (0x1D51E, 1, "abcdefghijklmnopqrstuvwxyzab"), (0x1D53B, 1, "defg"), (0x1D540, 1, "ijklm"),
  (0x1D546, 1, "o"), (0x1D54A, 1, "stuvwxy"),
  (0x1D552, 1, "abcdefghijklmnopqrstuvwxyzabcdefghijklmnopqrstuvwxyzabcdefghijklmnopqrstuvwxyzab"),
  (0x1D5A2, 1, "cdefghijklmnopqrstuvwxyzabcdefghijklmnopqrstuvwxyzabcdefghijklmnopqrstuvwxyzabcd"),
  (0x1D5F2, 1, "efghijklmnopqrstuvwxyzabcdefghijklmnopqrstuvwxyzabcdefghijklmnopqrstuvwxyzabcdef"),
  (0x1D642, 1, "ghijklmnopqrstuvwxyzabcdefghijklmnopqrstuvwxyzabcdefghijklmnopqrstuvwxyzabcdefgh"),
  (0x1D692, 1, "ijklmnopqrstuvwxyzıȷ"),
  (0x1D6A8, 1, "αβγδεζηθικλμνξοπρθστυφχψω∇αβγδεζηθικλμνξοπρσστυφχψω∂εθκφρπαβγδεζηθικλμνξοπρθστυφ"),
  (0x1D6F8, 1, "χψω∇αβγδεζηθικλμνξοπρσστυφχψω∂εθκφρπαβγδεζηθικλμνξοπρθστυφχψω∇αβγδεζηθικλμνξοπρσ"),
  (0x1D748, 1, "στυφχψω∂εθκφρπαβγδεζηθικλμνξοπρθστυφχψω∇αβγδεζηθικλμνξοπρσστυφχψω∂εθκφρπαβγδεζηθ"),
  (0x1D798, 1, "ικλμνξοπρθστυφχψω∇αβγδεζηθικλμνξοπρσστυφχψω∂εθκφρπϝϝ"),
  (0x1D7CE, 1, "01234567890123456789012345678901234567890123456789"), (0x1DF40, 2, "𝽁𝽃𝽅𝽇𝽉𝽋"),
  (0x1DF4D, 2, "𝽎𝽐𝽒𝽔𝽖𝽘𝽚"), (0x1DF5C, 2, "𝽝𝽟𝽡𝽣𝽥𝽧𝽩𝽫𝽭𝽯𝽱𝽳𝽵𝽷𝽹𝽻𝽽𝽿𝾁"), (0x1DF91, 2, "𝾒𝾔"),
  (0x1DFD0, 1, "ɣ"), (0x1DFD8, 1, "𝼾"), (0x1DFE2, 1, "ʆ"), (0x1DFE8, 1, "ᴅ"), (0x1DFEE, 1, "ʯ"),
  (0x1DFFA, 1, "ƈƙƥʠƭ𝼉"),
  (0x1E030, 1, "абвгдежзиклмопрстуфхцчшыэюꚉәіјөүӏабвгдежзиклопсуфхцчшъыґіѕџҫꙑұ"),
  (0x1E900, 1, "𞤢𞤣𞤤𞤥𞤦𞤧𞤨𞤩𞤪𞤫𞤬𞤭𞤮𞤯𞤰𞤱𞤲𞤳𞤴𞤵𞤶𞤷𞤸𞤹𞤺𞤻𞤼𞤽𞤾𞤿𞥀𞥁𞥂𞥃"), (0x1EE00, 1, "\u0627\u0628\u062c\u062f"),
  (0x1EE05, 1, "\u0648\u0632\u062d\u0637\u064a\u0643\u0644\u0645\u0646\u0633\u0639\u0641\u0635"),
  (0x1EE12, 1, "\u0642\u0631\u0634\u062a\u062b\u062e\u0630\u0636\u0638\u063a\u066e\u06ba\u06a1"),
  (0x1EE1F, 1, "\u066f"), (0x1EE21, 1, "\u0628\u062c"), (0x1EE24, 1, "\u0647"),
  (0x1EE27, 1, "\u062d"),
  (0x1EE29, 1, "\u064a\u0643\u0644\u0645\u0646\u0633\u0639\u0641\u0635\u0642"),
  (0x1EE34, 1, "\u0634\u062a\u062b\u062e"), (0x1EE39, 2, "\u0636\u063a"), (0x1EE42, 1, "\u062c"),
  (0x1EE47, 2, "\u062d\u064a\u0644"), (0x1EE4D, 1, "\u0646\u0633\u0639"),
  (0x1EE51, 1, "\u0635\u0642"), (0x1EE54, 1, "\u0634"),
  (0x1EE57, 2, "\u062e\u0636\u063a\u06ba\u066f"), (0x1EE61, 1, "\u0628\u062c"),
  (0x1EE64, 1, "\u0647"), (0x1EE67, 1, "\u062d\u0637\u064a\u0643"),
  (0x1EE6C, 1, "\u0645\u0646\u0633\u0639\u0641\u0635\u0642"),
  (0x1EE74, 1, "\u0634\u062a\u062b\u062e"), (0x1EE79, 1, "\u0636\u0638\u063a\u066e"),
  (0x1EE7E, 1, "\u06a1"),
  (0x1EE80, 1, "\u0627\u0628\u062c\u062f\u0647\u0648\u0632\u062d\u0637\u064a"),
  (0x1EE8B, 1, "\u0644\u0645\u0646\u0633\u0639\u0641\u0635\u0642\u0631\u0634\u062a\u062b\u062e"),
  (0x1EE98, 1, "\u0630\u0636\u0638\u063a"), (0x1EEA1, 1, "\u0628\u062c\u062f"),
  (0x1EEA5, 1, "\u0648\u0632\u062d\u0637\u064a"),
  (0x1EEAB, 1, "\u0644\u0645\u0646\u0633\u0639\u0641\u0635\u0642\u0631\u0634\u062a\u062b\u062e"),
  (0x1EEB8, 1, "\u0630\u0636\u0638\u063a"), (0x1F12B, 1, "cr"),
  (0x1F130, 1, "abcdefghijklmnopqrstuvwxyz"), (0x1F202, 1, "サ"),
  (0x1F210, 1, "手字双デ二多解天交映無料前後再新初終生販声吹演投捕一三遊左中右指走打禁空合満有月申割営配"), (0x1F250, 1, "得可"),
  (0x1FBF0, 1, "0123456789")]

/-- Runs of characters with several in place of each. -/
def replacementTexts : List (Nat × List String) := [
  (0xA8, [" \u0308"]), (0xAF, [" \u0304"]), (0xB4, [" \u0301"]), (0xB8, [" \u0327"]),
  (0xBC, ["1⁄4", "1⁄2", "3⁄4"]), (0x130, ["i\u0307"]), (0x132, ["ij", "ij"]), (0x13F, ["l·", "l·"]),
  (0x149, ["ʼn"]), (0x1C4, ["dž", "dž", "dž", "lj", "lj", "lj", "nj", "nj", "nj"]),
  (0x1F1, ["dz", "dz", "dz"]),
  (0x2D8, [" \u0306", " \u0307", " \u030a", " \u0328", " \u0303", " \u030b"]), (0x37A, [" ι"]),
  (0x384, [" \u0301", " \u0308\u0301"]), (0x587, ["եւ"]),
  (0x675, ["\u0627\u0674", "\u0648\u0674", "\u06c7\u0674", "\u064a\u0674"]), (0xE33, ["\u0e4dา"]),
  (0xEB3, ["\u0ecdາ"]), (0xEDC, ["ຫນ", "ຫມ"]), (0xF77, ["\u0fb2\u0f71\u0f80"]),
  (0xF79, ["\u0fb3\u0f71\u0f80"]), (0x1E9A, ["aʾ"]),
  (0x1F80, ["ἀι", "ἁι", "ἂι", "ἃι", "ἄι", "ἅι", "ἆι", "ἇι", "ἀι", "ἁι", "ἂι", "ἃι"]),
  (0x1F8C, ["ἄι", "ἅι", "ἆι", "ἇι", "ἠι", "ἡι", "ἢι", "ἣι", "ἤι", "ἥι", "ἦι", "ἧι"]),
  (0x1F98, ["ἠι", "ἡι", "ἢι", "ἣι", "ἤι", "ἥι", "ἦι", "ἧι", "ὠι", "ὡι", "ὢι", "ὣι"]),
  (0x1FA4, ["ὤι", "ὥι", "ὦι", "ὧι", "ὠι", "ὡι", "ὢι", "ὣι", "ὤι", "ὥι", "ὦι", "ὧι"]),
  (0x1FB2, ["ὰι", "αι", "άι"]), (0x1FB7, ["ᾶι"]), (0x1FBC, ["αι", " \u0313"]),
  (0x1FBF, [" \u0313", " \u0342", " \u0308\u0342", "ὴι", "ηι", "ήι"]), (0x1FC7, ["ῆι"]),
  (0x1FCC, ["ηι", " \u0313\u0300", " \u0313\u0301", " \u0313\u0342"]),
  (0x1FDD, [" \u0314\u0300", " \u0314\u0301", " \u0314\u0342"]),
  (0x1FED, [" \u0308\u0300", " \u0308\u0301"]), (0x1FF2, ["ὼι", "ωι", "ώι"]), (0x1FF7, ["ῶι"]),
  (0x1FFC, ["ωι", " \u0301", " \u0314"]), (0x2017, [" \u0333"]), (0x2033, ["′′", "′′′"]),
  (0x2036, ["‵‵", "‵‵‵"]), (0x203C, ["!!"]), (0x203E, [" \u0305"]), (0x2047, ["??", "?!", "!?"]),
  (0x2057, ["′′′′"]), (0x20A8, ["rs"]), (0x2100, ["a/c", "a/s"]), (0x2103, ["°c"]),
  (0x2105, ["c/o", "c/u"]), (0x2109, ["°f"]), (0x2116, ["no"]), (0x2120, ["sm", "tel", "tm"]),
  (0x213B, ["fax"]),
  (0x2150, ["1⁄7", "1⁄9", "1⁄10", "1⁄3", "2⁄3", "1⁄5", "2⁄5", "3⁄5", "4⁄5", "1⁄6", "5⁄6"]),
  (0x215B, ["1⁄8"]), (0x215C, ["3⁄8", "5⁄8", "7⁄8", "1⁄"]), (0x2161, ["ii", "iii", "iv"]),
  (0x2165, ["vi", "vii", "viii", "ix"]), (0x216A, ["xi", "xii"]), (0x2171, ["ii", "iii", "iv"]),
  (0x2175, ["vi", "vii", "viii", "ix"]), (0x217A, ["xi", "xii"]), (0x2189, ["0⁄3"]),
  (0x222C, ["∫∫", "∫∫∫"]), (0x222F, ["∮∮", "∮∮∮"]),
  (0x2469, ["10", "11", "12", "13", "14", "15", "16", "17", "18", "19", "20", "(1)"]),
  (0x2475, ["(2)", "(3)", "(4)", "(5)", "(6)", "(7)", "(8)", "(9)", "(10)", "(11)", "(12)"]),
  (0x2480, ["(13)"]), (0x2481, ["(14)", "(15)", "(16)", "(17)", "(18)", "(19)", "(20)"]),
  (0x249C, ["(a)", "(b)", "(c)", "(d)", "(e)", "(f)", "(g)", "(h)", "(i)", "(j)", "(k)", "(l)"]),
  (0x24A8, ["(m)", "(n)", "(o)", "(p)", "(q)", "(r)", "(s)", "(t)", "(u)", "(v)", "(w)", "(x)"]),
  (0x24B4, ["(y)", "(z)"]), (0x2A0C, ["∫∫∫∫"]), (0x2A74, ["::=", "==", "==="]),
  (0x309B, [" \u3099", " \u309a"]), (0x309F, ["より"]), (0x30FF, ["コト"]),
  (0x3200, ["(ᄀ)", "(ᄂ)", "(ᄃ)", "(ᄅ)", "(ᄆ)", "(ᄇ)", "(ᄉ)", "(ᄋ)", "(ᄌ)", "(ᄎ)", "(ᄏ)", "(ᄐ)"]),
  (0x320C, ["(ᄑ)", "(ᄒ)", "(가)", "(나)", "(다)", "(라)", "(마)", "(바)", "(사)", "(아)", "(자)", "(차)"]),
  (0x3218, ["(카)", "(타)", "(파)", "(하)", "(주)", "(오전)", "(오후)"]),
  (0x3220, ["(一)", "(二)", "(三)", "(四)", "(五)", "(六)", "(七)", "(八)", "(九)", "(十)", "(月)", "(火)"]),
  (0x322C, ["(水)", "(木)", "(金)", "(土)", "(日)", "(株)", "(有)", "(社)", "(名)", "(特)", "(財)", "(祝)"]),
  (0x3238, ["(労)", "(代)", "(呼)", "(学)", "(監)", "(企)", "(資)", "(協)", "(祭)", "(休)", "(自)", "(至)"]),
  (0x3250, ["pte", "21", "22", "23", "24", "25", "26", "27", "28", "29", "30", "31"]),
  (0x325C, ["32", "33", "34", "35"]), (0x327C, ["참고", "주의"]),
  (0x32B1, ["36", "37", "38", "39", "40", "41", "42", "43", "44", "45", "46", "47"]),
  (0x32BD, ["48", "49", "50", "1月", "2月", "3月", "4月", "5月", "6月", "7月", "8月", "9月"]),
  (0x32C9, ["10月", "11月", "12月", "hg", "erg", "ev", "ltd"]),
  (0x32FF, ["令和", "アパート", "アルファ", "アンペア", "アール", "イニング", "インチ", "ウォン", "エスクード", "エーカー", "オンス"]),
  (0x330A, ["オーム"]),
  (0x330B, ["カイリ", "カラット", "カロリー", "ガロン", "ガンマ", "ギガ", "ギニー", "キュリー", "ギルダー", "キロ", "キログラム"]),
  (0x3316, ["キロメートル"]),
  (0x3317, ["キロワット", "グラム", "グラムトン", "クルゼイロ", "クローネ", "ケース", "コルナ", "コーポ", "サイクル", "サンチーム"]),
  (0x3321, ["シリング", "センチ"]),
  (0x3323, ["セント", "ダース", "デシ", "ドル", "トン", "ナノ", "ノット", "ハイツ", "パーセント", "パーツ", "バーレル"]),
  (0x332E, ["ピアストル"]),
  (0x332F, ["ピクル", "ピコ", "ビル", "ファラッド", "フィート", "ブッシェル", "フラン", "ヘクタール", "ペソ", "ペニヒ", "ヘルツ"]),
  (0x333A, ["ペンス"]),
  (0x333B, ["ページ", "ベータ", "ポイント", "ボルト", "ホン", "ポンド", "ホール", "ホーン", "マイクロ", "マイル", "マッハ"]),
  (0x3346, ["マルク"]),
  (0x3347, ["マンション", "ミクロン", "ミリ", "ミリバール", "メガ", "メガトン", "メートル", "ヤード", "ヤール", "ユアン", "リットル"]),
  (0x3352, ["リラ"]),
  (0x3353, ["ルピー", "ルーブル", "レム", "レントゲン", "ワット", "0点", "1点", "2点", "3点", "4点", "5点", "6点"]),
  (0x335F, ["7点", "8点", "9点", "10点", "11点", "12点", "13点", "14点", "15点", "16点", "17点", "18点"]),
  (0x336B, ["19点", "20点", "21点", "22点", "23点", "24点", "hpa", "da", "au", "bar", "ov", "pc"]),
  (0x3377, ["dm", "dm2", "dm3", "iu", "平成", "昭和", "大正", "明治", "株式会社", "pa", "na", "μa"]),
  (0x3383, ["ma", "ka", "kb", "mb", "gb", "cal", "kcal", "pf", "nf", "μf", "μg", "mg"]),
  (0x338F, ["kg", "hz", "khz", "mhz", "ghz", "thz", "μl", "ml", "dl", "kl", "fm", "nm"]),
  (0x339B, ["μm", "mm", "cm", "km", "mm2", "cm2", "m2", "km2", "mm3", "cm3", "m3", "km3"]),
  (0x33A7, ["m∕s", "m∕s2", "pa", "kpa", "mpa", "gpa", "rad", "rad∕s", "rad∕s2", "ps", "ns"]),
  (0x33B2, ["μs"]),
  (0x33B3, ["ms", "pv", "nv", "μv", "mv", "kv", "mv", "pw", "nw", "μw", "mw", "kw"]),
  (0x33BF, ["mw", "kω", "mω"]), (0x33C3, ["bq", "cc", "cd", "c∕kg"]),
  (0x33C8, ["db", "gy", "ha", "hp", "in", "kk", "km", "kt", "lm", "ln", "log", "lx"]),
  (0x33D4, ["mb", "mil", "mol", "ph"]),
  (0x33D9, ["ppm", "pr", "sr", "sv", "wb", "v∕m", "a∕m", "1日", "2日", "3日", "4日", "5日"]),
  (0x33E5, ["6日", "7日", "8日", "9日", "10日", "11日", "12日", "13日", "14日", "15日", "16日", "17日"]),
  (0x33F1, ["18日", "19日", "20日", "21日", "22日", "23日", "24日", "25日", "26日", "27日", "28日", "29日"]),
  (0x33FD, ["30日", "31日", "gal"]), (0xFB00, ["ff", "fi", "fl", "ffi", "ffl", "st", "st"]),
  (0xFB13, ["մն", "մե", "մի", "վն", "մխ"]), (0xFB4F, ["\u05d0\u05dc"]), (0xFBDD, ["\u06c7\u0674"]),
  (0xFBEA, ["\u0626\u0627", "\u0626\u0627", "\u0626\u06d5", "\u0626\u06d5", "\u0626\u0648"]),
  (0xFBEF, ["\u0626\u0648", "\u0626\u06c7", "\u0626\u06c7", "\u0626\u06c6", "\u0626\u06c6"]),
  (0xFBF4, ["\u0626\u06c8", "\u0626\u06c8"]),
  (0xFBF6, ["\u0626\u06d0", "\u0626\u06d0", "\u0626\u06d0", "\u0626\u0649", "\u0626\u0649"]),
  (0xFBFB, ["\u0626\u0649"]),
  (0xFC00, ["\u0626\u062c", "\u0626\u062d", "\u0626\u0645", "\u0626\u0649", "\u0626\u064a"]),
  (0xFC05, ["\u0628\u062c", "\u0628\u062d", "\u0628\u062e", "\u0628\u0645", "\u0628\u0649"]),
  (0xFC0A, ["\u0628\u064a", "\u062a\u062c"]),
  (0xFC0C, ["\u062a\u062d", "\u062a\u062e", "\u062a\u0645", "\u062a\u0649", "\u062a\u064a"]),
  (0xFC11, ["\u062b\u062c", "\u062b\u0645", "\u062b\u0649", "\u062b\u064a", "\u062c\u062d"]),
  (0xFC16, ["\u062c\u0645", "\u062d\u062c"]),
  (0xFC18, ["\u062d\u0645", "\u062e\u062c", "\u062e\u062d", "\u062e\u0645", "\u0633\u062c"]),
  (0xFC1D, ["\u0633\u062d", "\u0633\u062e", "\u0633\u0645", "\u0635\u062d", "\u0635\u0645"]),
  (0xFC22, ["\u0636\u062c", "\u0636\u062d"]),
  (0xFC24, ["\u0636\u062e", "\u0636\u0645", "\u0637\u062d", "\u0637\u0645", "\u0638\u0645"]),
  (0xFC29, ["\u0639\u062c", "\u0639\u0645", "\u063a\u062c", "\u063a\u0645", "\u0641\u062c"]),
  (0xFC2E, ["\u0641\u062d", "\u0641\u062e"]),
  (0xFC30, ["\u0641\u0645", "\u0641\u0649", "\u0641\u064a", "\u0642\u062d", "\u0642\u0645"]),
  (0xFC35, ["\u0642\u0649", "\u0642\u064a", "\u0643\u0627", "\u0643\u062c", "\u0643\u062d"]),
  (0xFC3A, ["\u0643\u062e", "\u0643\u0644"]),
  (0xFC3C, ["\u0643\u0645", "\u0643\u0649", "\u0643\u064a", "\u0644\u062c", "\u0644\u062d"]),
  (0xFC41, ["\u0644\u062e", "\u0644\u0645", "\u0644\u0649", "\u0644\u064a", "\u0645\u062c"]),
  (0xFC46, ["\u0645\u062d", "\u0645\u062e"]),
  (0xFC48, ["\u0645\u0645", "\u0645\u0649", "\u0645\u064a", "\u0646\u062c", "\u0646\u062d"]),
  (0xFC4D, ["\u0646\u062e", "\u0646\u0645", "\u0646\u0649", "\u0646\u064a", "\u0647\u062c"]),
  (0xFC52, ["\u0647\u0645", "\u0647\u0649"]),
  (0xFC54, ["\u0647\u064a", "\u064a\u062c", "\u064a\u062d", "\u064a\u062e", "\u064a\u0645"]),
  (0xFC59, ["\u064a\u0649", "\u064a\u064a", "\u0630\u0670", "\u0631\u0670", "\u0649\u0670"]),
  (0xFC5E, [" \u064c\u0651", " \u064d\u0651"]),
  (0xFC60, [" \u064e\u0651", " \u064f\u0651", " \u0650\u0651", " \u0651\u0670", "\u0626\u0631"]),
  (0xFC65, ["\u0626\u0632", "\u0626\u0645", "\u0626\u0646", "\u0626\u0649", "\u0626\u064a"]),
  (0xFC6A, ["\u0628\u0631", "\u0628\u0632"]),
  (0xFC6C, ["\u0628\u0645", "\u0628\u0646", "\u0628\u0649", "\u0628\u064a", "\u062a\u0631"]),
  (0xFC71, ["\u062a\u0632", "\u062a\u0645", "\u062a\u0646", "\u062a\u0649", "\u062a\u064a"]),
  (0xFC76, ["\u062b\u0631", "\u062b\u0632"]),
  (0xFC78, ["\u062b\u0645", "\u062b\u0646", "\u062b\u0649", "\u062b\u064a", "\u0641\u0649"]),
  (0xFC7D, ["\u0641\u064a", "\u0642\u0649", "\u0642\u064a", "\u0643\u0627", "\u0643\u0644"]),
  (0xFC82, ["\u0643\u0645", "\u0643\u0649"]),
  (0xFC84, ["\u0643\u064a", "\u0644\u0645", "\u0644\u0649", "\u0644\u064a", "\u0645\u0627"]),
  (0xFC89, ["\u0645\u0645", "\u0646\u0631", "\u0646\u0632", "\u0646\u0645", "\u0646\u0646"]),
  (0xFC8E, ["\u0646\u0649", "\u0646\u064a"]),
  (0xFC90, ["\u0649\u0670", "\u064a\u0631", "\u064a\u0632", "\u064a\u0645", "\u064a\u0646"]),
  (0xFC95, ["\u064a\u0649", "\u064a\u064a", "\u0626\u062c", "\u0626\u062d", "\u0626\u062e"]),
  (0xFC9A, ["\u0626\u0645", "\u0626\u0647"]),
  (0xFC9C, ["\u0628\u062c", "\u0628\u062d", "\u0628\u062e", "\u0628\u0645", "\u0628\u0647"]),
  (0xFCA1, ["\u062a\u062c", "\u062a\u062d", "\u062a\u062e", "\u062a\u0645", "\u062a\u0647"]),
  (0xFCA6, ["\u062b\u0645", "\u062c\u062d"]),
  (0xFCA8, ["\u062c\u0645", "\u062d\u062c", "\u062d\u0645", "\u062e\u062c", "\u062e\u0645"]),
  (0xFCAD, ["\u0633\u062c", "\u0633\u062d", "\u0633\u062e", "\u0633\u0645", "\u0635\u062d"]),
  (0xFCB2, ["\u0635\u062e", "\u0635\u0645"]),
  (0xFCB4, ["\u0636\u062c", "\u0636\u062d", "\u0636\u062e", "\u0636\u0645", "\u0637\u062d"]),
  (0xFCB9, ["\u0638\u0645", "\u0639\u062c", "\u0639\u0645", "\u063a\u062c", "\u063a\u0645"]),
  (0xFCBE, ["\u0641\u062c", "\u0641\u062d"]),
  (0xFCC0, ["\u0641\u062e", "\u0641\u0645", "\u0642\u062d", "\u0642\u0645", "\u0643\u062c"]),
  (0xFCC5, ["\u0643\u062d", "\u0643\u062e", "\u0643\u0644", "\u0643\u0645", "\u0644\u062c"]),
  (0xFCCA, ["\u0644\u062d", "\u0644\u062e"]),
  (0xFCCC, ["\u0644\u0645", "\u0644\u0647", "\u0645\u062c", "\u0645\u062d", "\u0645\u062e"]),
  (0xFCD1, ["\u0645\u0645", "\u0646\u062c", "\u0646\u062d", "\u0646\u062e", "\u0646\u0645"]),
  (0xFCD6, ["\u0646\u0647", "\u0647\u062c"]),
  (0xFCD8, ["\u0647\u0645", "\u0647\u0670", "\u064a\u062c", "\u064a\u062d", "\u064a\u062e"]),
  (0xFCDD, ["\u064a\u0645", "\u064a\u0647", "\u0626\u0645", "\u0626\u0647", "\u0628\u0645"]),
  (0xFCE2, ["\u0628\u0647", "\u062a\u0645"]),
  (0xFCE4, ["\u062a\u0647", "\u062b\u0645", "\u062b\u0647", "\u0633\u0645", "\u0633\u0647"]),
  (0xFCE9, ["\u0634\u0645", "\u0634\u0647", "\u0643\u0644", "\u0643\u0645", "\u0644\u0645"]),
  (0xFCEE, ["\u0646\u0645", "\u0646\u0647"]),
  (0xFCF0, ["\u064a\u0645", "\u064a\u0647", "\u0640\u064e\u0651", "\u0640\u064f\u0651"]),
  (0xFCF4, ["\u0640\u0650\u0651", "\u0637\u0649", "\u0637\u064a", "\u0639\u0649"]),
  (0xFCF8, ["\u0639\u064a", "\u063a\u0649", "\u063a\u064a", "\u0633\u0649"]),
  (0xFCFC, ["\u0633\u064a", "\u0634\u0649", "\u0634\u064a", "\u062d\u0649", "\u062d\u064a"]),
  (0xFD01, ["\u062c\u0649", "\u062c\u064a", "\u062e\u0649", "\u062e\u064a", "\u0635\u0649"]),
  (0xFD06, ["\u0635\u064a", "\u0636\u0649"]),
  (0xFD08, ["\u0636\u064a", "\u0634\u062c", "\u0634\u062d", "\u0634\u062e", "\u0634\u0645"]),
  (0xFD0D, ["\u0634\u0631", "\u0633\u0631", "\u0635\u0631", "\u0636\u0631", "\u0637\u0649"]),
  (0xFD12, ["\u0637\u064a", "\u0639\u0649"]),
  (0xFD14, ["\u0639\u064a", "\u063a\u0649", "\u063a\u064a", "\u0633\u0649", "\u0633\u064a"]),
  (0xFD19, ["\u0634\u0649", "\u0634\u064a", "\u062d\u0649", "\u062d\u064a", "\u062c\u0649"]),
  (0xFD1E, ["\u062c\u064a", "\u062e\u0649"]),
  (0xFD20, ["\u062e\u064a", "\u0635\u0649", "\u0635\u064a", "\u0636\u0649", "\u0636\u064a"]),
  (0xFD25, ["\u0634\u062c", "\u0634\u062d", "\u0634\u062e", "\u0634\u0645", "\u0634\u0631"]),
  (0xFD2A, ["\u0633\u0631", "\u0635\u0631"]),
  (0xFD2C, ["\u0636\u0631", "\u0634\u062c", "\u0634\u062d", "\u0634\u062e", "\u0634\u0645"]),
  (0xFD31, ["\u0633\u0647", "\u0634\u0647", "\u0637\u0645", "\u0633\u062c", "\u0633\u062d"]),
  (0xFD36, ["\u0633\u062e", "\u0634\u062c"]),
  (0xFD38, ["\u0634\u062d", "\u0634\u062e", "\u0637\u0645", "\u0638\u0645", "\u0627\u064b"]),
  (0xFD3D, ["\u0627\u064b"]),
  (0xFD50, ["\u062a\u062c\u0645", "\u062a\u062d\u062c", "\u062a\u062d\u062c"]),
  (0xFD53, ["\u062a\u062d\u0645", "\u062a\u062e\u0645", "\u062a\u0645\u062c"]),
  (0xFD56, ["\u062a\u0645\u062d", "\u062a\u0645\u062e", "\u062c\u0645\u062d"]),
  (0xFD59, ["\u062c\u0645\u062d", "\u062d\u0645\u064a", "\u062d\u0645\u0649"]),
  (0xFD5C, ["\u0633\u062d\u062c", "\u0633\u062c\u062d", "\u0633\u062c\u0649"]),
  (0xFD5F, ["\u0633\u0645\u062d", "\u0633\u0645\u062d", "\u0633\u0645\u062c"]),
  (0xFD62, ["\u0633\u0645\u0645", "\u0633\u0645\u0645", "\u0635\u062d\u062d"]),
  (0xFD65, ["\u0635\u062d\u062d", "\u0635\u0645\u0645", "\u0634\u062d\u0645"]),
  (0xFD68, ["\u0634\u062d\u0645", "\u0634\u062c\u064a", "\u0634\u0645\u062e"]),
  (0xFD6B, ["\u0634\u0645\u062e", "\u0634\u0645\u0645", "\u0634\u0645\u0645"]),
  (0xFD6E, ["\u0636\u062d\u0649", "\u0636\u062e\u0645", "\u0636\u062e\u0645"]),
  (0xFD71, ["\u0637\u0645\u062d", "\u0637\u0645\u062d", "\u0637\u0645\u0645"]),
  (0xFD74, ["\u0637\u0645\u064a", "\u0639\u062c\u0645", "\u0639\u0645\u0645"]),
  (0xFD77, ["\u0639\u0645\u0645", "\u0639\u0645\u0649", "\u063a\u0645\u0645"]),
  (0xFD7A, ["\u063a\u0645\u064a", "\u063a\u0645\u0649", "\u0641\u062e\u0645"]),
  (0xFD7D, ["\u0641\u062e\u0645", "\u0642\u0645\u062d", "\u0642\u0645\u0645"]),
  (0xFD80, ["\u0644\u062d\u0645", "\u0644\u062d\u064a", "\u0644\u062d\u0649"]),
  (0xFD83, ["\u0644\u062c\u062c", "\u0644\u062c\u062c", "\u0644\u062e\u0645"]),
  (0xFD86, ["\u0644\u062e\u0645", "\u0644\u0645\u062d", "\u0644\u0645\u062d"]),
  (0xFD89, ["\u0645\u062d\u062c", "\u0645\u062d\u0645", "\u0645\u062d\u064a"]),
  (0xFD8C, ["\u0645\u062c\u062d", "\u0645\u062c\u0645", "\u0645\u062e\u062c"]),
  (0xFD8F, ["\u0645\u062e\u0645"]),
  (0xFD92, ["\u0645\u062c\u062e", "\u0647\u0645\u062c", "\u0647\u0645\u0645"]),
  (0xFD95, ["\u0646\u062d\u0645", "\u0646\u062d\u0649", "\u0646\u062c\u0645"]),
  (0xFD98, ["\u0646\u062c\u0645", "\u0646\u062c\u0649", "\u0646\u0645\u064a"]),
  (0xFD9B, ["\u0646\u0645\u0649", "\u064a\u0645\u0645", "\u064a\u0645\u0645"]),
  (0xFD9E, ["\u0628\u062e\u064a", "\u062a\u062c\u064a", "\u062a\u062c\u0649"]),
  (0xFDA1, ["\u062a\u062e\u064a", "\u062a\u062e\u0649", "\u062a\u0645\u064a"]),
  (0xFDA4, ["\u062a\u0645\u0649", "\u062c\u0645\u064a", "\u062c\u062d\u0649"]),
  (0xFDA7, ["\u062c\u0645\u0649", "\u0633\u062e\u0649", "\u0635\u062d\u064a"]),
  (0xFDAA, ["\u0634\u062d\u064a", "\u0636\u062d\u064a", "\u0644\u062c\u064a"]),
  (0xFDAD, ["\u0644\u0645\u064a", "\u064a\u062d\u064a", "\u064a\u062c\u064a"]),
  (0xFDB0, ["\u064a\u0645\u064a", "\u0645\u0645\u064a", "\u0642\u0645\u064a"]),
  (0xFDB3, ["\u0646\u062d\u064a", "\u0642\u0645\u062d", "\u0644\u062d\u0645"]),
  (0xFDB6, ["\u0639\u0645\u064a", "\u0643\u0645\u064a", "\u0646\u062c\u062d"]),
  (0xFDB9, ["\u0645\u062e\u064a", "\u0644\u062c\u0645", "\u0643\u0645\u0645"]),
  (0xFDBC, ["\u0644\u062c\u0645", "\u0646\u062c\u062d", "\u062c\u062d\u064a"]),
  (0xFDBF, ["\u062d\u062c\u064a", "\u0645\u062c\u064a", "\u0641\u0645\u064a"]),
  (0xFDC2, ["\u0628\u062d\u064a", "\u0643\u0645\u0645", "\u0639\u062c\u0645"]),
  (0xFDC5, ["\u0635\u0645\u0645", "\u0633\u062e\u064a", "\u0646\u062c\u064a"]),
  (0xFDF0, ["\u0635\u0644\u06d2", "\u0642\u0644\u06d2", "\u0627\u0644\u0644\u0647"]),
  (0xFDF3, ["\u0627\u0643\u0628\u0631", "\u0645\u062d\u0645\u062f", "\u0635\u0644\u0639\u0645"]),
  (0xFDF6, ["\u0631\u0633\u0648\u0644", "\u0639\u0644\u064a\u0647", "\u0648\u0633\u0644\u0645"]),
  (0xFDF9, ["\u0635\u0644\u0649"]),
  (0xFDFA, [
    "\u0635\u0644\u0649 \u0627\u0644\u0644\u0647 " ++
      "\u0639\u0644\u064a\u0647 \u0648\u0633\u0644\u0645"]),
  (0xFDFB, ["\u062c\u0644 \u062c\u0644\u0627\u0644\u0647"]), (0xFDFC, ["\u0631\u06cc\u0627\u0644"]),
  (0xFE49, [" \u0305", " \u0305", " \u0305", " \u0305"]),
  (0xFE70, [" \u064b", "\u0640\u064b", " \u064c"]), (0xFE74, [" \u064d"]),
  (0xFE76, [" \u064e", "\u0640\u064e", " \u064f", "\u0640\u064f", " \u0650", "\u0640\u0650"]),
  (0xFE7C, [" \u0651", "\u0640\u0651", " \u0652", "\u0640\u0652"]),
  (0xFEF5, ["\u0644\u0622", "\u0644\u0622", "\u0644\u0623", "\u0644\u0623", "\u0644\u0625"]),
  (0xFEFA, ["\u0644\u0625", "\u0644\u0627", "\u0644\u0627"]), (0xFFE3, [" \u0304"]),
  (0x1B123, ["こと", "トキ", "トモ", "ヨリ"]), (0x1DF95, ["ss"]),
  (0x1F101, ["0,", "1,", "2,", "3,", "4,", "5,", "6,", "7,", "8,", "9,"]),
  (0x1F110, ["(a)", "(b)", "(c)", "(d)", "(e)", "(f)", "(g)", "(h)", "(i)", "(j)", "(k)"]),
  (0x1F11B, ["(l)"]),
  (0x1F11C, ["(m)", "(n)", "(o)", "(p)", "(q)", "(r)", "(s)", "(t)", "(u)", "(v)", "(w)"]),
  (0x1F127, ["(x)"]), (0x1F128, ["(y)", "(z)", "〔s〕"]), (0x1F12D, ["cd", "wz"]),
  (0x1F14A, ["hv", "mv", "sd", "ss", "ppv", "wc"]), (0x1F16A, ["mc", "md", "mr"]),
  (0x1F190, ["dj"]), (0x1F200, ["ほか", "ココ"]),
  (0x1F240, ["〔本〕", "〔三〕", "〔二〕", "〔安〕", "〔点〕", "〔打〕", "〔盗〕", "〔勝〕", "〔敗〕"])]

def inRuns? (n : Nat) : List (Nat × Nat × String) → Option Char
  | [] => none
  | (first, step, text) :: rest =>
    if n < first then none
    else
      match if (n - first) % step = 0 then text.toList[(n - first) / step]? else none with
      | some c => some c
      | none => inRuns? n rest

def inTexts? (n : Nat) : List (Nat × List String) → Option String
  | [] => none
  | (first, texts) :: rest =>
    if n < first then none
    else
      match texts[n - first]? with
      | some text => some text
      | none => inTexts? n rest

/-- What a domain name holds in place of the character, if not the character itself. -/
def replacement? (c : Char) : Option (List Char) :=
  match inRuns? c.toNat replacementRuns with
  | some d => some [d]
  | none => (inTexts? c.toNat replacementTexts).map String.toList

end LightningDeposit.Url.Domain
