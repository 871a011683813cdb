import StyleTree.Text.Ranges
import StyleTree.Text.Rows

/-!
# Characters of domains

What stands for a character of a domain name: another character, several ones, none, or nothing
at all if no domain may hold it. All other characters stand for themselves.
-/

namespace StyleTree.Domain

/-- Characters at equal distances, each of which stands for the one that is as far from `target`
as it is from `first`. -/
structure Shift where
  first : Nat
  last : Nat
  step : Nat
  target : Nat
deriving DecidableEq, Repr

/-- Alphabets, most of them in upper case or of a special style. -/
def shifts : List Shift := [
  ⟨0x41, 0x5a, 1, 0x61⟩, ⟨0xc0, 0xd6, 1, 0xe0⟩, ⟨0xd8, 0xde, 1, 0xf8⟩, ⟨0x100, 0x12e, 2, 0x101⟩,
  ⟨0x141, 0x147, 2, 0x142⟩, ⟨0x14a, 0x176, 2, 0x14b⟩, ⟨0x1cd, 0x1db, 2, 0x1ce⟩,
  ⟨0x1de, 0x1ee, 2, 0x1df⟩, ⟨0x1f8, 0x21e, 2, 0x1f9⟩, ⟨0x222, 0x232, 2, 0x223⟩,
  ⟨0x246, 0x24e, 2, 0x247⟩, ⟨0x391, 0x3a1, 1, 0x3b1⟩, ⟨0x3a3, 0x3ab, 1, 0x3c3⟩,
  ⟨0x3d8, 0x3ee, 2, 0x3d9⟩, ⟨0x400, 0x40f, 1, 0x450⟩, ⟨0x410, 0x42f, 1, 0x430⟩,
  ⟨0x460, 0x480, 2, 0x461⟩, ⟨0x48a, 0x4be, 2, 0x48b⟩, ⟨0x4c1, 0x4cd, 2, 0x4c2⟩,
  ⟨0x4d0, 0x52e, 2, 0x4d1⟩, ⟨0x531, 0x556, 1, 0x561⟩, ⟨0x10a0, 0x10c5, 1, 0x2d00⟩,
  ⟨0x13f8, 0x13fd, 1, 0x13f0⟩, ⟨0x1c90, 0x1cba, 1, 0x10d0⟩, ⟨0x1d31, 0x1d39, 2, 0x65⟩,
  ⟨0x1d34, 0x1d3a, 2, 0x68⟩, ⟨0x1dae, 0x1db1, 1, 0x272⟩, ⟨0x1e00, 0x1e94, 2, 0x1e01⟩,
  ⟨0x1ea0, 0x1efe, 2, 0x1ea1⟩, ⟨0x1f08, 0x1f0f, 1, 0x1f00⟩, ⟨0x1f18, 0x1f1d, 1, 0x1f10⟩,
  ⟨0x1f28, 0x1f2f, 1, 0x1f20⟩, ⟨0x1f38, 0x1f3f, 1, 0x1f30⟩, ⟨0x1f48, 0x1f4d, 1, 0x1f40⟩,
  ⟨0x1f59, 0x1f5f, 2, 0x1f51⟩, ⟨0x1f68, 0x1f6f, 1, 0x1f60⟩, ⟨0x2074, 0x2079, 1, 0x34⟩,
  ⟨0x2080, 0x2089, 1, 0x30⟩, ⟨0x2096, 0x2099, 1, 0x6b⟩, ⟨0x2135, 0x2138, 1, 0x5d0⟩,
  ⟨0x2460, 0x2468, 1, 0x31⟩, ⟨0x24b6, 0x24cf, 1, 0x61⟩, ⟨0x24d0, 0x24e9, 1, 0x61⟩,
  ⟨0x2c00, 0x2c2f, 1, 0x2c30⟩, ⟨0x2c80, 0x2ce2, 2, 0x2c81⟩, ⟨0x313a, 0x313f, 1, 0x11b0⟩,
  ⟨0x3145, 0x314e, 1, 0x1109⟩, ⟨0x314f, 0x3163, 1, 0x1161⟩, ⟨0x3178, 0x317c, 1, 0x112b⟩,
  ⟨0x3269, 0x326d, 1, 0x110e⟩, ⟨0x32e4, 0x32e9, 1, 0x30ca⟩, ⟨0x32ee, 0x32f2, 1, 0x30de⟩,
  ⟨0x32f5, 0x32fa, 1, 0x30e8⟩, ⟨0x32fb, 0x32fe, 1, 0x30ef⟩, ⟨0xa640, 0xa66c, 2, 0xa641⟩,
  ⟨0xa680, 0xa69a, 2, 0xa681⟩, ⟨0xa722, 0xa72e, 2, 0xa723⟩, ⟨0xa732, 0xa76e, 2, 0xa733⟩,
  ⟨0xa77e, 0xa786, 2, 0xa77f⟩, ⟨0xa796, 0xa7a8, 2, 0xa797⟩, ⟨0xa7b4, 0xa7c2, 2, 0xa7b5⟩,
  ⟨0xa7cc, 0xa7da, 2, 0xa7cd⟩, ⟨0xab70, 0xabbf, 1, 0x13a0⟩, ⟨0xfe41, 0xfe44, 1, 0x300c⟩,
  ⟨0xff02, 0xff18, 2, 0x22⟩, ⟨0xff07, 0xff0d, 2, 0x27⟩, ⟨0xff11, 0xff1d, 2, 0x31⟩,
  ⟨0xff21, 0xff3a, 1, 0x61⟩, ⟨0xff3f, 0xff5b, 1, 0x5f⟩, ⟨0xff85, 0xff8a, 1, 0x30ca⟩,
  ⟨0xff8f, 0xff93, 1, 0x30de⟩, ⟨0xff96, 0xff9b, 1, 0x30e8⟩, ⟨0xffaa, 0xffaf, 1, 0x11b0⟩,
  ⟨0xffb5, 0xffbe, 1, 0x1109⟩, ⟨0xffc2, 0xffc7, 1, 0x1161⟩, ⟨0xffca, 0xffcf, 1, 0x1167⟩,
  ⟨0xffd2, 0xffd7, 1, 0x116d⟩, ⟨0xffe9, 0xffec, 1, 0x2190⟩, ⟨0x10400, 0x10427, 1, 0x10428⟩,
  ⟨0x104b0, 0x104d3, 1, 0x104d8⟩, ⟨0x10570, 0x10594, 2, 0x10597⟩, ⟨0x10571, 0x10579, 2, 0x10598⟩,
  ⟨0x1057d, 0x10589, 2, 0x105a4⟩, ⟨0x10c80, 0x10cb2, 1, 0x10cc0⟩, ⟨0x10d50, 0x10d65, 1, 0x10d70⟩,
  ⟨0x118a0, 0x118bf, 1, 0x118c0⟩, ⟨0x16e40, 0x16e5f, 1, 0x16e60⟩, ⟨0x16ea0, 0x16eb8, 1, 0x16ebb⟩,
  ⟨0x1ccd6, 0x1ccef, 1, 0x61⟩, ⟨0x1ccf0, 0x1ccf9, 1, 0x30⟩, ⟨0x1d400, 0x1d419, 1, 0x61⟩,
  ⟨0x1d41a, 0x1d433, 1, 0x61⟩, ⟨0x1d434, 0x1d44d, 1, 0x61⟩, ⟨0x1d44e, 0x1d466, 2, 0x61⟩,
  ⟨0x1d457, 0x1d467, 2, 0x6a⟩, ⟨0x1d468, 0x1d481, 1, 0x61⟩, ⟨0x1d482, 0x1d49b, 1, 0x61⟩,
  ⟨0x1d4a9, 0x1d4ac, 1, 0x6e⟩, ⟨0x1d4ae, 0x1d4b5, 1, 0x73⟩, ⟨0x1d4b6, 0x1d4b9, 1, 0x61⟩,
  ⟨0x1d4bb, 0x1d4cf, 2, 0x66⟩, ⟨0x1d4c6, 0x1d4ce, 2, 0x71⟩, ⟨0x1d4d0, 0x1d4e9, 1, 0x61⟩,
  ⟨0x1d4ea, 0x1d503, 1, 0x61⟩, ⟨0x1d507, 0x1d50a, 1, 0x64⟩, ⟨0x1d50d, 0x1d514, 1, 0x6a⟩,
  ⟨0x1d516, 0x1d51c, 1, 0x73⟩, ⟨0x1d51e, 0x1d537, 1, 0x61⟩, ⟨0x1d53b, 0x1d53e, 1, 0x64⟩,
  ⟨0x1d540, 0x1d544, 1, 0x69⟩, ⟨0x1d54a, 0x1d550, 1, 0x73⟩, ⟨0x1d552, 0x1d56b, 1, 0x61⟩,
  ⟨0x1d56c, 0x1d585, 1, 0x61⟩, ⟨0x1d586, 0x1d59f, 1, 0x61⟩, ⟨0x1d5a0, 0x1d5b9, 1, 0x61⟩,
  ⟨0x1d5ba, 0x1d5d3, 1, 0x61⟩, ⟨0x1d5d4, 0x1d5ed, 1, 0x61⟩, ⟨0x1d5ee, 0x1d607, 1, 0x61⟩,
  ⟨0x1d608, 0x1d621, 1, 0x61⟩, ⟨0x1d622, 0x1d63b, 1, 0x61⟩, ⟨0x1d63c, 0x1d655, 1, 0x61⟩,
  ⟨0x1d656, 0x1d66f, 1, 0x61⟩, ⟨0x1d670, 0x1d689, 1, 0x61⟩, ⟨0x1d68a, 0x1d6a3, 1, 0x61⟩,
  ⟨0x1d6a8, 0x1d6b8, 1, 0x3b1⟩, ⟨0x1d6ba, 0x1d6c0, 1, 0x3c3⟩, ⟨0x1d6c2, 0x1d6d2, 1, 0x3b1⟩,
  ⟨0x1d6d4, 0x1d6da, 1, 0x3c3⟩, ⟨0x1d6e2, 0x1d6f2, 1, 0x3b1⟩, ⟨0x1d6f4, 0x1d6fa, 1, 0x3c3⟩,
  ⟨0x1d6fc, 0x1d70c, 1, 0x3b1⟩, ⟨0x1d70e, 0x1d714, 1, 0x3c3⟩, ⟨0x1d71c, 0x1d72c, 1, 0x3b1⟩,
  ⟨0x1d72e, 0x1d734, 1, 0x3c3⟩, ⟨0x1d736, 0x1d746, 1, 0x3b1⟩, ⟨0x1d748, 0x1d74e, 1, 0x3c3⟩,
  ⟨0x1d756, 0x1d766, 1, 0x3b1⟩, ⟨0x1d768, 0x1d76e, 1, 0x3c3⟩, ⟨0x1d770, 0x1d780, 1, 0x3b1⟩,
  ⟨0x1d782, 0x1d788, 1, 0x3c3⟩, ⟨0x1d790, 0x1d7a0, 1, 0x3b1⟩, ⟨0x1d7a2, 0x1d7a8, 1, 0x3c3⟩,
  ⟨0x1d7aa, 0x1d7ba, 1, 0x3b1⟩, ⟨0x1d7bc, 0x1d7c2, 1, 0x3c3⟩, ⟨0x1d7ce, 0x1d7d7, 1, 0x30⟩,
  ⟨0x1d7d8, 0x1d7e1, 1, 0x30⟩, ⟨0x1d7e2, 0x1d7eb, 1, 0x30⟩, ⟨0x1d7ec, 0x1d7f5, 1, 0x30⟩,
  ⟨0x1d7f6, 0x1d7ff, 1, 0x30⟩, ⟨0x1e030, 0x1e038, 1, 0x430⟩, ⟨0x1e03c, 0x1e046, 1, 0x43e⟩,
  ⟨0x1e051, 0x1e059, 1, 0x430⟩, ⟨0x1e05f, 0x1e064, 1, 0x443⟩, ⟨0x1e900, 0x1e921, 1, 0x1e922⟩,
  ⟨0x1ee0a, 0x1ee0d, 1, 0x643⟩, ⟨0x1ee2a, 0x1ee2d, 1, 0x643⟩, ⟨0x1f130, 0x1f149, 1, 0x61⟩,
  ⟨0x1fbf0, 0x1fbf9, 1, 0x30⟩]

/-- Single characters that stand for another one. -/
def replacements : Rows := [
  (0xaa, "a"), (0xb2, "23\ufffdμ\ufffd\ufffd\ufffd1o"),
  (0x134, "ĵ\ufffdķ\ufffd\ufffdĺ\ufffdļ\ufffdľ"),
  (0x178, "ÿź\ufffdż\ufffdž\ufffds\ufffdɓƃ\ufffdƅ\ufffdɔƈ\ufffdɖɗƌ\ufffd\ufffdǝəɛƒ\ufffdɠɣ"),
  (0x196, "ɩɨƙ\ufffd\ufffd\ufffdɯɲ\ufffdɵơ\ufffdƣ\ufffdƥ\ufffdʀƨ\ufffdʃ\ufffd\ufffdƭ\ufffdʈ"),
  (0x1af, "ư\ufffdʊʋƴ\ufffdƶ\ufffdʒƹ\ufffd\ufffd\ufffdƽ"), (0x1f4, "ǵ\ufffdƕƿ"), (0x220, "ƞ"),
  (0x23a, "ⱥȼ\ufffdƚⱦ\ufffd\ufffdɂ\ufffdƀʉʌ"), (0x2b0, "hɦjrɹɻʁwy"), (0x2e0, "ɣlsxʕ"),
  (0x340, "\u0300\u0301\ufffd\u0313\ufffdι"), (0x370, "ͱ\ufffdͳ\ufffdʹ\ufffdͷ"), (0x37e, ";ϳ"),
  (0x386, "ά·έήί\ufffdό\ufffdύώ"), (0x3cf, "ϗβθυύϋφπ"),
  (0x3f0, "κρσ\ufffdθε\ufffdϸ\ufffdσϻ\ufffd\ufffdͻͼͽ"), (0x4c0, "ӏ"), (0xf0c, "་"), (0x10c7, "ⴧ"),
  (0x10cd, "ⴭ"), (0x10fc, "ნ"), (0x1c80, "вдосттъѣꙋᲊ"), (0x1cbd, "ჽჾჿ"),
  (0x1d2c, "aæb\ufffdd\ufffdǝ"), (0x1d3c, "oȣprtuwaɐɑᴂbdeəɛɜg\ufffdkmŋoɔᴖᴗptuᴝɯvᴥβγδφχiruvβγρφχ"),
  (0x1d78, "н"), (0x1d9b, "ɒcɕðɜfɟɡɥɨɩɪᵻʝɭᶅʟɱɰ"), (0x1db2, "ɸʂʃƫʉʊᴜʋʌzʐʑʒθ"),
  (0x1e9b, "ṡ\ufffd\ufffdß"), (0x1f71, "ά\ufffdέ\ufffdή\ufffdί\ufffdό\ufffdύ\ufffdώ"),
  (0x1fb8, "ᾰᾱὰά\ufffd\ufffdι"), (0x1fc8, "ὲέὴή"), (0x1fd3, "ΐ"), (0x1fd8, "ῐῑὶί"), (0x1fe3, "ΰ"),
  (0x1fe8, "ῠῡὺύῥ\ufffd\ufffd`"), (0x1ff8, "ὸόὼώ"), (0x2011, "‐"), (0x2070, "0i"),
  (0x207a, "+−=()n"), (0x208a, "+−=()\ufffdaeoxəh"), (0x209a, "pst"), (0x2102, "c"),
  (0x2107, "ɛ\ufffd\ufffdghhhhħiill\ufffdn\ufffd\ufffd\ufffdpqrrr"),
  (0x2124, "z\ufffdω\ufffdz\ufffdkåbc\ufffdeefⅎmo"), (0x2139, "i\ufffd\ufffdπγγπ∑"),
  (0x2145, "ddeij"), (0x2160, "i\ufffd\ufffd\ufffdv"),
  (0x2169, "x\ufffd\ufffdlcdmi\ufffd\ufffd\ufffdv"),
  (0x2179, "x\ufffd\ufffdlcdm\ufffd\ufffd\ufffdↄ"), (0x2329, "〈〉"), (0x24ea, "0"),
  (0x2c60, "ⱡ\ufffdɫᵽɽ\ufffd\ufffdⱨ\ufffdⱪ\ufffdⱬ\ufffdɑɱɐɒ\ufffdⱳ\ufffd\ufffdⱶ"),
  (0x2c7c, "jvȿɀ"), (0x2ceb, "ⳬ\ufffdⳮ"), (0x2cf2, "ⳳ"), (0x2d6f, "ⵡ"), (0x2e9f, "母"),
  (0x2ef3, "龟"),
  (0x2f00, "一丨丶丿乙亅二亠人儿入八冂冖冫几凵刀力勹匕匚匸十卜卩厂厶又口囗土士夂夊夕大女子宀寸小尢尸屮山巛工己巾干幺广廴廾弋弓彐彡彳心戈戶手支攴文斗斤方无日曰月木欠止歹殳毋"),
  (0x2f50, "比毛氏气水火爪父爻爿片牙牛犬玄玉瓜瓦甘生用田疋疒癶白皮皿目矛矢石示禸禾穴立竹米糸缶网羊羽老而耒耳聿肉臣自至臼舌舛舟艮色艸虍虫血行衣襾見角言谷豆豕豸貝赤走足身車辛"),
  (0x2fa0, "辰辵邑酉釆里金長門阜隶隹雨靑非面革韋韭音頁風飛食首香馬骨高髟鬥鬯鬲鬼魚鳥鹵鹿麥麻黃黍黑黹黽鼎鼓鼠鼻齊齒龍龜龠"), (0x3002, "."),
  (0x3036, "〒\ufffd十卄卅"), (0x3131, "ᄀᄁᆪᄂᆬᆭᄃᄄᄅ"), (0x3140, "ᄚᄆᄇᄈᄡ"),
  (0x3165, "ᄔᄕᇇᇈᇌᇎᇓᇗᇙᄜᇝᇟᄝᄞᄠᄢᄣᄧᄩ"), (0x317d, "ᄲᄶᅀᅇᅌᇱᇲᅗᅘᅙᆄᆅᆈᆑᆒᆔᆞᆡ\ufffd\ufffd\ufffd一二三四上中下甲乙丙丁天地人"),
  (0x3244, "問幼文箏"), (0x3260, "ᄀᄂᄃᄅᄆᄇᄉᄋᄌ"),
  (0x326e, "가나다라마바사아자차카타파하\ufffd\ufffd우\ufffd一二三四五六七八九十月火水木金土日株有社名特財祝労秘男女適優印注項休写正上中下左右医宗学監企資"),
  (0x32af, "協夜"), (0x32d0, "アイウエオカキクケコサシスセソタチツテト"), (0x32ea, "ヒフヘホ"), (0x32f3, "ヤユ"),
  (0xa69c, "ъь"), (0xa770, "ꝯ"), (0xa779, "ꝺ\ufffdꝼ\ufffdᵹ"),
  (0xa78b, "ꞌ\ufffdɥ\ufffd\ufffdꞑ\ufffdꞓ"), (0xa7aa, "ɦɜɡɬɪ\ufffdʞʇʝꭓ"),
  (0xa7c4, "ꞔʂᶎꟈ\ufffdꟊ\ufffdɤ"), (0xa7dc, "ƛ"), (0xa7f1, "scfqꟶ\ufffd\ufffdħœ"),
  (0xab5c, "ꜧꬷɫꭒ"), (0xab69, "ʍ"),
  (0xf900, "豈更車賈滑串句龜龜契金喇奈懶癩羅蘿螺裸邏樂洛烙珞落酪駱亂卵欄爛蘭鸞嵐濫藍襤拉臘蠟廊朗浪狼郎來冷勞擄櫓爐盧老蘆虜路露魯鷺碌祿綠菉錄鹿論壟弄籠聾牢磊賂雷壘屢樓淚漏累"),
  (0xf950, "縷陋勒肋凜凌稜綾菱陵讀拏樂諾丹寧怒率異北磻便復不泌數索參塞省葉說殺辰沈拾若掠略亮兩凉梁糧良諒量勵呂女廬旅濾礪閭驪麗黎力曆歷轢年憐戀撚漣煉璉秊練聯輦蓮連鍊列劣咽烈"),
  (0xf9a0, "裂說廉念捻殮簾獵令囹寧嶺怜玲瑩羚聆鈴零靈領例禮醴隸惡了僚寮尿料樂燎療蓼遼龍暈阮劉杻柳流溜琉留硫紐類六戮陸倫崙淪輪律慄栗率隆利吏履易李梨泥理痢罹裏裡里離匿溺吝燐璘"),
  (0xf9f0, "藺隣鱗麟林淋臨立笠粒狀炙識什茶刺切度拓糖宅洞暴輻行降見廓兀嗀\ufffd\ufffd塚\ufffd晴\ufffd\ufffd凞猪益礼神祥福靖精羽\ufffd蘒"),
  (0xfa22, "諸\ufffd\ufffd逸都\ufffd\ufffd\ufffd飯飼館鶴郞隷侮僧免勉勤卑喝嘆器塀墨層屮悔慨憎懲敏既暑梅海渚漢煮爫琢碑社祉祈祐祖祝禍禎穀突節練縉"),
  (0xfa59, "繁署者臭艹艹著褐視謁謹賓贈辶逸難響頻恵𤋮舘\ufffd\ufffd並况全侀充冀勇勺喝啕喙嗢塚墳奄奔婢嬨廒廙彩徭惘慎愈憎慠懲戴揄搜摒敖晴朗望杖歹殺流滛滋漢瀞煮瞧爵"),
  (0xfa9f, "犯猪瑱甆画瘝瘟益盛直睊着磌窱節类絛練缾者荒華蝹襁覆視調諸請謁諾諭謹變贈輸遲醙鉶陼難靖韛響頋頻鬒龜𢡊𢡄𣏕㮝䀘䀹𥉉𥳐𧻓齃龎"),
  (0xfb20, "\u05e2\u05d0\u05d3\u05d4\u05db\u05dc\u05dd\u05e8\u05ea+"),
  (0xfb50, "\u0671\u0671\u067b\u067b\u067b\u067b\u067e\u067e\u067e\u067e\u0680\u0680\u0680"),
  (0xfb5d, "\u0680\u067a\u067a\u067a\u067a\u067f\u067f\u067f\u067f\u0679\u0679\u0679\u0679"),
  (0xfb6a, "\u06a4\u06a4\u06a4\u06a4\u06a6\u06a6\u06a6\u06a6\u0684\u0684\u0684\u0684\u0683"),
  (0xfb77, "\u0683\u0683\u0683\u0686\u0686\u0686\u0686\u0687\u0687\u0687\u0687\u068d\u068d"),
  (0xfb84, "\u068c\u068c\u068e\u068e\u0688\u0688\u0698\u0698\u0691\u0691\u06a9\u06a9\u06a9"),
  (0xfb91, "\u06a9\u06af\u06af\u06af\u06af\u06b3\u06b3\u06b3\u06b3\u06b1\u06b1\u06b1\u06b1"),
  (0xfb9e, "\u06ba\u06ba\u06bb\u06bb\u06bb\u06bb\u06c0\u06c0\u06c1\u06c1\u06c1\u06c1\u06be"),
  (0xfbab, "\u06be\u06be\u06be\u06d2\u06d2\u06d3\u06d3"),
  (0xfbd3, "\u06ad\u06ad\u06ad\u06ad\u06c7\u06c7\u06c6\u06c6\u06c8\u06c8\ufffd\u06cb\u06cb"),
  (0xfbe0, "\u06c5\u06c5\u06c9\u06c9\u06d0\u06d0\u06d0\u06d0\u0649\u0649"),
  (0xfbfc, "\u06cc\u06cc\u06cc\u06cc"), (0xfe10, ",、\ufffd\ufffd;!\ufffd〖〗"),
  (0xfe31, "—–__()\x7b\x7d〔〕【】《》〈〉"),
  (0xfe4d, "___,、\ufffd\ufffd;\ufffd\ufffd!—()\x7b\x7d〔〕\ufffd&*+-<>=\ufffd\ufffd$"),
  (0xfe80, "\u0621\u0622\u0622\u0623\u0623\u0624\u0624\u0625\u0625\u0626\u0626\u0626\u0626"),
  (0xfe8d, "\u0627\u0627\u0628\u0628\u0628\u0628\u0629\u0629\u062a\u062a\u062a\u062a\u062b"),
  (0xfe9a, "\u062b\u062b\u062b\u062c\u062c\u062c\u062c\u062d\u062d\u062d\u062d\u062e\u062e"),
  (0xfea7, "\u062e\u062e\u062f\u062f\u0630\u0630\u0631\u0631\u0632\u0632\u0633\u0633\u0633"),
  (0xfeb4, "\u0633\u0634\u0634\u0634\u0634\u0635\u0635\u0635\u0635\u0636\u0636\u0636\u0636"),
  (0xfec1, "\u0637\u0637\u0637\u0637\u0638\u0638\u0638\u0638\u0639\u0639\u0639\u0639\u063a"),
  (0xfece, "\u063a\u063a\u063a\u0641\u0641\u0641\u0641\u0642\u0642\u0642\u0642\u0643\u0643"),
  (0xfedb, "\u0643\u0643\u0644\u0644\u0644\u0644\u0645\u0645\u0645\u0645\u0646\u0646\u0646"),
  (0xfee8, "\u0646\u0647\u0647\u0647\u0647\u0648\u0648\u0649\u0649\u064a\u064a\u064a\u064a"),
  (0xff01, "!"), (0xff1c, "<\ufffd>"), (0xff5d, "\x7d~⦅⦆.「」、・ヲァィゥェォャュョッーアイウエオカキクケコサシスセソタチツテト"),
  (0xff8b, "ヒフヘホ"), (0xff94, "ヤユ"), (0xff9c, "ワン\u3099\u309a\ufffdᄀᄁᆪᄂᆬᆭᄃᄄᄅ"), (0xffb0, "ᄚᄆᄇᄈᄡ"),
  (0xffda, "ᅳᅴᅵ\ufffd\ufffd\ufffd¢£¬\ufffd¦¥₩\ufffd│"), (0xffed, "■○"),
  (0x1058d, "𐖴\ufffd𐖶\ufffd𐖸\ufffd\ufffd\ufffd𐖼"),
  (0x10781, "ːˑæʙɓ\ufffdʣꭦʥʤɖɗᶑɘɞʩɤɢɠʛħʜɧʄʪʫɬ𝼄ꞎɮ𝼅ʎ𝼆øɶɷqɺ𝼈ɽɾʀʨʦꭧʧʈⱱ\ufffdʏʡʢʘǀǁǂ𝼊𝼞"),
  (0x1d44f, "b\ufffdd\ufffdf"), (0x1d49c, "a\ufffdcd\ufffd\ufffdg\ufffd\ufffdjk"),
  (0x1d4be, "i\ufffdk\ufffdm"), (0x1d504, "ab"), (0x1d538, "ab"), (0x1d546, "o"), (0x1d6a4, "ıȷ"),
  (0x1d6b9, "θ"), (0x1d6c1, "∇"), (0x1d6d3, "σ"), (0x1d6db, "∂εθκφρπ"), (0x1d6f3, "θ"),
  (0x1d6fb, "∇"), (0x1d70d, "σ"), (0x1d715, "∂εθκφρπ"), (0x1d72d, "θ"), (0x1d735, "∇"),
  (0x1d747, "σ"), (0x1d74f, "∂εθκφρπ"), (0x1d767, "θ"), (0x1d76f, "∇"), (0x1d781, "σ"),
  (0x1d789, "∂εθκφρπ"), (0x1d7a1, "θ"), (0x1d7a9, "∇"), (0x1d7bb, "σ"), (0x1d7c3, "∂εθκφρπϝϝ"),
  (0x1e039, "клм"), (0x1e047, "ыэюꚉәіјөүӏ"), (0x1e05a, "клопс"), (0x1e065, "ъыґіѕџҫꙑұ"),
  (0x1ee00, "\u0627\u0628\u062c\u062f\ufffd\u0648\u0632\u062d\u0637\u064a"),
  (0x1ee0e, "\u0633\u0639\u0641\u0635\u0642\u0631\u0634\u062a\u062b\u062e\u0630\u0636\u0638"),
  (0x1ee1b, "\u063a\u066e\u06ba\u06a1\u066f\ufffd\u0628\u062c\ufffd\u0647\ufffd\ufffd\u062d"),
  (0x1ee29, "\u064a"),
  (0x1ee2e, "\u0633\u0639\u0641\u0635\u0642\ufffd\u0634\u062a\u062b\u062e\ufffd\u0636"),
  (0x1ee3b, "\u063a"), (0x1ee42, "\u062c"),
  (0x1ee47, "\u062d\ufffd\u064a\ufffd\u0644\ufffd\u0646\u0633\u0639\ufffd\u0635\u0642"),
  (0x1ee54, "\u0634\ufffd\ufffd\u062e\ufffd\u0636\ufffd\u063a\ufffd\u06ba\ufffd\u066f"),
  (0x1ee61, "\u0628\u062c\ufffd\u0647\ufffd\ufffd\u062d\u0637\u064a\u0643\ufffd\u0645\u0646"),
  (0x1ee6e, "\u0633\u0639\u0641\u0635\u0642\ufffd\u0634\u062a\u062b\u062e\ufffd\u0636\u0638"),
  (0x1ee7b, "\u063a\u066e\ufffd\u06a1\ufffd\u0627\u0628\u062c\u062f\u0647\u0648\u0632\u062d"),
  (0x1ee88, "\u0637\u064a\ufffd\u0644\u0645\u0646\u0633\u0639\u0641\u0635\u0642\u0631\u0634"),
  (0x1ee95, "\u062a\u062b\u062e\u0630\u0636\u0638\u063a"),
  (0x1eea1, "\u0628\u062c\u062f\ufffd\u0648\u0632\u062d\u0637\u064a\ufffd\u0644\u0645\u0646"),
  (0x1eeae, "\u0633\u0639\u0641\u0635\u0642\u0631\u0634\u062a\u062b\u062e\u0630\u0636\u0638"),
  (0x1eebb, "\u063a"), (0x1f12b, "cr"), (0x1f202, "サ"),
  (0x1f210, "手字双デ二多解天交映無料前後再新初終生販声吹演投捕一三遊左中右指走打禁空合満有月申割営配"), (0x1f250, "得可"),
  (0x2f800, "丽丸乁𠄢你侮侻倂偺備僧像㒞𠘺免兔兤具𠔜㒹內再𠕋冗冤仌冬况𩇟凵刃㓟刻剆割剷㔕勇勉勤勺包匆北卉卑博即卽卿卿卿𠨬灰及叟𠭣叫叱吆咞吸呈周咢哶唐啓啣善善喙喫喳嗂圖嘆圗噑噴"),
  (0x2f850, "切壮城埴堍型堲報墬𡓤売壷夆多夢奢𡚨𡛪姬娛娧姘婦㛮㛼嬈嬾嬾𡧈寃寘寧寳𡬘寿将当尢㞁屠屮峀岍𡷤嵃𡷦嵮嵫嵼巡巢㠯巽帨帽幩㡢𢆃㡼庰庳庶廊𪎒廾𢌱𢌱舁弢弢㣇𣊸𦇚形彫㣣徚忍志忹"),
  (0x2f8a0, "悁㤺㤜悔𢛔惇慈慌慎慌慺憎憲憤憯懞懲懶成戛扝抱拔捐𢬌挽拼捨掃揤𢯱搢揅掩㨮摩摾撝摷㩬敏敬𣀊旣書晉㬙暑㬈㫤冒冕最暜肭䏙朗望朡杞杓𣏃㭉柺枅桒梅𣑭梎栟椔㮝楂榣槪檨𣚣櫛㰘次"),
  (0x2f8f0, "𣢧歔㱎歲殟殺殻𣪍𡴋𣫺汎𣲼沿泍汧洖派海流浩浸涅𣴞洴港湮㴳滋滇𣻑淹潮𣽞𣾎濆瀹瀞瀛㶖灊災灷炭𠔥煅𤉣熜𤎫爨爵牐𤘈犀犕𤜵𤠔獺王㺬玥㺸㺸瑇瑜瑱璅瓊㼛甤𤰶甾𤲒異𢆟瘐𤾡𤾸𥁄㿼䀈"),
  (0x2f940, "直𥃳𥃲𥄙𥄳眞真真睊䀹瞋䁆䂖𥐝硎碌磌䃣𥘦祖𥚚𥛅福秫䄯穀穊穏𥥼𥪧𥪧竮䈂𥮫篆築䈧𥲀糒䊠糨糣紀𥾆絣䌁緇縂繅䌴𦈨𦉇䍙𦋙罺𦌾羕翺者𦓚𦔣聠𦖨聰𣍟䏕育脃䐋脾媵𦞧𦞵𣎓𣎜舁舄辞䑫芑"),
  (0x2f990, "芋芝劳花芳芽苦𦬼若茝荣莭茣莽菧著荓菊菌菜𦰶𦵫𦳕䔫蓱蓳蔖𧏊蕤𦼬䕝䕡𦾱𧃒䕫虐虜虧虩蚩蚈蜎蛢蝹蜨蝫螆䗗蟡蠁䗹衠衣𧙧裗裞䘵裺㒻𧢮𧥦䚾䛇誠諭變豕𧲨貫賁贛起𧼯𠠄跋趼跰𠣞軔輸"),
  (0x2f9e0, "𨗒𨗭邔郱鄑𨜮鄛鈸鋗鋘鉼鏹鐕𨯺開䦕閷𨵷䧦雃嶲霣𩅅𩈚䩮䩶韠𩐊䪲𩒖頋頋頩𩖶飢䬳餩馧駂駾䯎𩬰鬒鱀鳽䳎䳭鵧𪃎䳸𪄅𪈎𪊑麻䵖黹黾鼅鼏鼖鼻𪘀")]

/-- Single characters that stand for several ones, as rows of words. A hyphen fills a gap. -/
def expansions : List (Nat × String) := [
  (0xbc, "1⁄4 1⁄2 3⁄4"), (0x130, "i\u0307 - ij ij"), (0x13f, "l· l·"), (0x149, "ʼn"),
  (0x1c4, "dž dž dž lj lj lj nj nj nj"), (0x1f1, "dz dz dz"), (0x344, "\u0308\u0301"),
  (0x587, "եւ"), (0x675, "\u0627\u0674 \u0648\u0674 \u06c7\u0674 \u064a\u0674"),
  (0x958, "क\u093c ख\u093c ग\u093c ज\u093c ड\u093c ढ\u093c फ\u093c य\u093c"),
  (0x9dc, "ড\u09bc ঢ\u09bc - য\u09bc"), (0xa33, "ਲ\u0a3c - - ਸ\u0a3c"),
  (0xa59, "ਖ\u0a3c ਗ\u0a3c ਜ\u0a3c - - ਫ\u0a3c"), (0xb5c, "ଡ\u0b3c ଢ\u0b3c"), (0xe33, "\u0e4dา"),
  (0xeb3, "\u0ecdາ"), (0xedc, "ຫນ ຫມ"), (0xf43, "ག\u0fb7"), (0xf4d, "ཌ\u0fb7"),
  (0xf52, "ད\u0fb7"), (0xf57, "བ\u0fb7"), (0xf5c, "ཛ\u0fb7"), (0xf69, "ཀ\u0fb5"),
  (0xf73, "\u0f71\u0f72 - \u0f71\u0f74 \u0fb2\u0f80 \u0fb2\u0f71\u0f80 \u0fb3\u0f80"),
  (0xf79, "\u0fb3\u0f71\u0f80"), (0xf81, "\u0f71\u0f80"), (0xf93, "\u0f92\u0fb7"),
  (0xf9d, "\u0f9c\u0fb7"), (0xfa2, "\u0fa1\u0fb7"), (0xfa7, "\u0fa6\u0fb7"),
  (0xfac, "\u0fab\u0fb7"), (0xfb9, "\u0f90\u0fb5"), (0x1e9a, "aʾ"),
  (0x1f80, "ἀι ἁι ἂι ἃι ἄι ἅι ἆι ἇι ἀι ἁι ἂι ἃι ἄι ἅι ἆι ἇι ἠι ἡι ἢι ἣι ἤι ἥι ἦι ἧι ἠι ἡι ἢι"),
  (0x1f9b, "ἣι ἤι ἥι ἦι ἧι ὠι ὡι ὢι ὣι ὤι ὥι ὦι ὧι ὠι ὡι ὢι ὣι ὤι ὥι ὦι ὧι - - ὰι αι άι"),
  (0x1fb7, "ᾶι"), (0x1fbc, "αι"), (0x1fc2, "ὴι ηι ήι - - ῆι"), (0x1fcc, "ηι"),
  (0x1ff2, "ὼι ωι ώι - - ῶι"), (0x1ffc, "ωι"), (0x2033, "′′ ′′′ - ‵‵ ‵‵‵"), (0x203c, "!!"),
  (0x2057, "′′′′"), (0x20a8, "rs"), (0x2103, "°c"), (0x2109, "°f"), (0x2116, "no"),
  (0x2120, "sm tel tm"), (0x213b, "fax"),
  (0x2150, "1⁄7 1⁄9 1⁄10 1⁄3 2⁄3 1⁄5 2⁄5 3⁄5 4⁄5 1⁄6 5⁄6 1⁄8 3⁄8 5⁄8 7⁄8 1⁄ - ii iii iv - vi"),
  (0x2166, "vii viii ix - xi xii"), (0x2171, "ii iii iv - vi vii viii ix - xi xii"),
  (0x2189, "0⁄3"), (0x222c, "∫∫ ∫∫∫ - ∮∮ ∮∮∮"),
  (0x2469, "10 11 12 13 14 15 16 17 18 19 20 (1) (2) (3) (4) (5) (6) (7) (8) (9) (10) (11)"),
  (0x247f, "(12) (13) (14) (15) (16) (17) (18) (19) (20)"),
  (0x249c, "(a) (b) (c) (d) (e) (f) (g) (h) (i) (j) (k) (l) (m) (n) (o) (p) (q) (r) (s) (t)"),
  (0x24b0, "(u) (v) (w) (x) (y) (z)"), (0x2a0c, "∫∫∫∫"), (0x2a75, "== ==="), (0x2adc, "⫝\u0338"),
  (0x309f, "より"), (0x30ff, "コト"),
  (0x3200, "(ᄀ) (ᄂ) (ᄃ) (ᄅ) (ᄆ) (ᄇ) (ᄉ) (ᄋ) (ᄌ) (ᄎ) (ᄏ) (ᄐ) (ᄑ) (ᄒ) (가) (나) (다) (라) (마) (바)"),
  (0x3214, "(사) (아) (자) (차) (카) (타) (파) (하) (주) (오전) (오후) - (一) (二) (三) (四) (五) (六) (七) (八)"),
  (0x3228, "(九) (十) (月) (火) (水) (木) (金) (土) (日) (株) (有) (社) (名) (特) (財) (祝) (労) (代) (呼) (学)"),
  (0x323c, "(監) (企) (資) (協) (祭) (休) (自) (至)"),
  (0x3250, "pte 21 22 23 24 25 26 27 28 29 30 31 32 33 34 35"), (0x327c, "참고 주의"),
  (0x32b1, "36 37 38 39 40 41 42 43 44 45 46 47 48 49 50 1月 2月 3月 4月 5月 6月 7月 8月 9月 10月 11月"),
  (0x32cb, "12月 hg erg ev ltd"),
  (0x32ff, "令和 アパート アルファ アンペア アール イニング インチ ウォン エスクード エーカー オンス オーム カイリ カラット カロリー ガロン ガンマ ギガ"),
  (0x3311, "ギニー キュリー ギルダー キロ キログラム キロメートル キロワット グラム グラムトン クルゼイロ クローネ ケース コルナ コーポ サイクル サンチーム"),
  (0x3321, "シリング センチ セント ダース デシ ドル トン ナノ ノット ハイツ パーセント パーツ バーレル ピアストル ピクル ピコ ビル ファラッド フィート"),
  (0x3334, "ブッシェル フラン ヘクタール ペソ ペニヒ ヘルツ ペンス ページ ベータ ポイント ボルト ホン ポンド ホール ホーン マイクロ マイル マッハ マルク"),
  (0x3347, "マンション ミクロン ミリ ミリバール メガ メガトン メートル ヤード ヤール ユアン リットル リラ ルピー ルーブル レム レントゲン ワット 0点 1点"),
  (0x335a, "2点 3点 4点 5点 6点 7点 8点 9点 10点 11点 12点 13点 14点 15点 16点 17点 18点 19点 20点 21点 22点 23点"),
  (0x3370, "24点 hpa da au bar ov pc dm dm2 dm3 iu 平成 昭和 大正 明治 株式会社 pa na μa ma ka kb mb gb"),
  (0x3388, "cal kcal pf nf μf μg mg kg hz khz mhz ghz thz μl ml dl kl fm nm μm mm cm km mm2"),
  (0x33a0, "cm2 m2 km2 mm3 cm3 m3 km3 m∕s m∕s2 pa kpa mpa gpa rad rad∕s rad∕s2 ps ns μs ms"),
  (0x33b4, "pv nv μv mv kv mv pw nw μw mw kw mw kω mω - bq cc cd c∕kg - db gy ha hp in kk km"),
  (0x33cf, "kt lm ln log lx mb mil mol ph - ppm pr sr sv wb v∕m a∕m 1日 2日 3日 4日 5日 6日 7日 8日"),
  (0x33e8, "9日 10日 11日 12日 13日 14日 15日 16日 17日 18日 19日 20日 21日 22日 23日 24日 25日 26日 27日 28日"),
  (0x33fc, "29日 30日 31日 gal"), (0xfb00, "ff fi fl ffi ffl st st"), (0xfb13, "մն մե մի վն մխ"),
  (0xfb1d, "\u05d9\u05b4 - \u05f2\u05b7"),
  (0xfb2a, "\u05e9\u05c1 \u05e9\u05c2 \u05e9\u05bc\u05c1 \u05e9\u05bc\u05c2 \u05d0\u05b7"),
  (0xfb2f, "\u05d0\u05b8 \u05d0\u05bc \u05d1\u05bc \u05d2\u05bc \u05d3\u05bc \u05d4\u05bc"),
  (0xfb35, "\u05d5\u05bc \u05d6\u05bc - \u05d8\u05bc \u05d9\u05bc \u05da\u05bc \u05db\u05bc"),
  (0xfb3c, "\u05dc\u05bc - \u05de\u05bc - \u05e0\u05bc \u05e1\u05bc - \u05e3\u05bc"),
  (0xfb44, "\u05e4\u05bc - \u05e6\u05bc \u05e7\u05bc \u05e8\u05bc \u05e9\u05bc \u05ea\u05bc"),
  (0xfb4b, "\u05d5\u05b9 \u05d1\u05bf \u05db\u05bf \u05e4\u05bf \u05d0\u05dc"),
  (0xfbdd, "\u06c7\u0674"),
  (0xfbea, "\u0626\u0627 \u0626\u0627 \u0626\u06d5 \u0626\u06d5 \u0626\u0648 \u0626\u0648"),
  (0xfbf0, "\u0626\u06c7 \u0626\u06c7 \u0626\u06c6 \u0626\u06c6 \u0626\u06c8 \u0626\u06c8"),
  (0xfbf6, "\u0626\u06d0 \u0626\u06d0 \u0626\u06d0 \u0626\u0649 \u0626\u0649 \u0626\u0649"),
  (0xfc00, "\u0626\u062c \u0626\u062d \u0626\u0645 \u0626\u0649 \u0626\u064a \u0628\u062c"),
  (0xfc06, "\u0628\u062d \u0628\u062e \u0628\u0645 \u0628\u0649 \u0628\u064a \u062a\u062c"),
  (0xfc0c, "\u062a\u062d \u062a\u062e \u062a\u0645 \u062a\u0649 \u062a\u064a \u062b\u062c"),
  (0xfc12, "\u062b\u0645 \u062b\u0649 \u062b\u064a \u062c\u062d \u062c\u0645 \u062d\u062c"),
  (0xfc18, "\u062d\u0645 \u062e\u062c \u062e\u062d \u062e\u0645 \u0633\u062c \u0633\u062d"),
  (0xfc1e, "\u0633\u062e \u0633\u0645 \u0635\u062d \u0635\u0645 \u0636\u062c \u0636\u062d"),
  (0xfc24, "\u0636\u062e \u0636\u0645 \u0637\u062d \u0637\u0645 \u0638\u0645 \u0639\u062c"),
  (0xfc2a, "\u0639\u0645 \u063a\u062c \u063a\u0645 \u0641\u062c \u0641\u062d \u0641\u062e"),
  (0xfc30, "\u0641\u0645 \u0641\u0649 \u0641\u064a \u0642\u062d \u0642\u0645 \u0642\u0649"),
  (0xfc36, "\u0642\u064a \u0643\u0627 \u0643\u062c \u0643\u062d \u0643\u062e \u0643\u0644"),
  (0xfc3c, "\u0643\u0645 \u0643\u0649 \u0643\u064a \u0644\u062c \u0644\u062d \u0644\u062e"),
  (0xfc42, "\u0644\u0645 \u0644\u0649 \u0644\u064a \u0645\u062c \u0645\u062d \u0645\u062e"),
  (0xfc48, "\u0645\u0645 \u0645\u0649 \u0645\u064a \u0646\u062c \u0646\u062d \u0646\u062e"),
  (0xfc4e, "\u0646\u0645 \u0646\u0649 \u0646\u064a \u0647\u062c \u0647\u0645 \u0647\u0649"),
  (0xfc54, "\u0647\u064a \u064a\u062c \u064a\u062d \u064a\u062e \u064a\u0645 \u064a\u0649"),
  (0xfc5a, "\u064a\u064a \u0630\u0670 \u0631\u0670 \u0649\u0670"),
  (0xfc64, "\u0626\u0631 \u0626\u0632 \u0626\u0645 \u0626\u0646 \u0626\u0649 \u0626\u064a"),
  (0xfc6a, "\u0628\u0631 \u0628\u0632 \u0628\u0645 \u0628\u0646 \u0628\u0649 \u0628\u064a"),
  (0xfc70, "\u062a\u0631 \u062a\u0632 \u062a\u0645 \u062a\u0646 \u062a\u0649 \u062a\u064a"),
  (0xfc76, "\u062b\u0631 \u062b\u0632 \u062b\u0645 \u062b\u0646 \u062b\u0649 \u062b\u064a"),
  (0xfc7c, "\u0641\u0649 \u0641\u064a \u0642\u0649 \u0642\u064a \u0643\u0627 \u0643\u0644"),
  (0xfc82, "\u0643\u0645 \u0643\u0649 \u0643\u064a \u0644\u0645 \u0644\u0649 \u0644\u064a"),
  (0xfc88, "\u0645\u0627 \u0645\u0645 \u0646\u0631 \u0646\u0632 \u0646\u0645 \u0646\u0646"),
  (0xfc8e, "\u0646\u0649 \u0646\u064a \u0649\u0670 \u064a\u0631 \u064a\u0632 \u064a\u0645"),
  (0xfc94, "\u064a\u0646 \u064a\u0649 \u064a\u064a \u0626\u062c \u0626\u062d \u0626\u062e"),
  (0xfc9a, "\u0626\u0645 \u0626\u0647 \u0628\u062c \u0628\u062d \u0628\u062e \u0628\u0645"),
  (0xfca0, "\u0628\u0647 \u062a\u062c \u062a\u062d \u062a\u062e \u062a\u0645 \u062a\u0647"),
  (0xfca6, "\u062b\u0645 \u062c\u062d \u062c\u0645 \u062d\u062c \u062d\u0645 \u062e\u062c"),
  (0xfcac, "\u062e\u0645 \u0633\u062c \u0633\u062d \u0633\u062e \u0633\u0645 \u0635\u062d"),
  (0xfcb2, "\u0635\u062e \u0635\u0645 \u0636\u062c \u0636\u062d \u0636\u062e \u0636\u0645"),
  (0xfcb8, "\u0637\u062d \u0638\u0645 \u0639\u062c \u0639\u0645 \u063a\u062c \u063a\u0645"),
  (0xfcbe, "\u0641\u062c \u0641\u062d \u0641\u062e \u0641\u0645 \u0642\u062d \u0642\u0645"),
  (0xfcc4, "\u0643\u062c \u0643\u062d \u0643\u062e \u0643\u0644 \u0643\u0645 \u0644\u062c"),
  (0xfcca, "\u0644\u062d \u0644\u062e \u0644\u0645 \u0644\u0647 \u0645\u062c \u0645\u062d"),
  (0xfcd0, "\u0645\u062e \u0645\u0645 \u0646\u062c \u0646\u062d \u0646\u062e \u0646\u0645"),
  (0xfcd6, "\u0646\u0647 \u0647\u062c \u0647\u0645 \u0647\u0670 \u064a\u062c \u064a\u062d"),
  (0xfcdc, "\u064a\u062e \u064a\u0645 \u064a\u0647 \u0626\u0645 \u0626\u0647 \u0628\u0645"),
  (0xfce2, "\u0628\u0647 \u062a\u0645 \u062a\u0647 \u062b\u0645 \u062b\u0647 \u0633\u0645"),
  (0xfce8, "\u0633\u0647 \u0634\u0645 \u0634\u0647 \u0643\u0644 \u0643\u0645 \u0644\u0645"),
  (0xfcee, "\u0646\u0645 \u0646\u0647 \u064a\u0645 \u064a\u0647 \u0640\u064e\u0651"),
  (0xfcf3, "\u0640\u064f\u0651 \u0640\u0650\u0651 \u0637\u0649 \u0637\u064a \u0639\u0649"),
  (0xfcf8, "\u0639\u064a \u063a\u0649 \u063a\u064a \u0633\u0649 \u0633\u064a \u0634\u0649"),
  (0xfcfe, "\u0634\u064a \u062d\u0649 \u062d\u064a \u062c\u0649 \u062c\u064a \u062e\u0649"),
  (0xfd04, "\u062e\u064a \u0635\u0649 \u0635\u064a \u0636\u0649 \u0636\u064a \u0634\u062c"),
  (0xfd0a, "\u0634\u062d \u0634\u062e \u0634\u0645 \u0634\u0631 \u0633\u0631 \u0635\u0631"),
  (0xfd10, "\u0636\u0631 \u0637\u0649 \u0637\u064a \u0639\u0649 \u0639\u064a \u063a\u0649"),
  (0xfd16, "\u063a\u064a \u0633\u0649 \u0633\u064a \u0634\u0649 \u0634\u064a \u062d\u0649"),
  (0xfd1c, "\u062d\u064a \u062c\u0649 \u062c\u064a \u062e\u0649 \u062e\u064a \u0635\u0649"),
  (0xfd22, "\u0635\u064a \u0636\u0649 \u0636\u064a \u0634\u062c \u0634\u062d \u0634\u062e"),
  (0xfd28, "\u0634\u0645 \u0634\u0631 \u0633\u0631 \u0635\u0631 \u0636\u0631 \u0634\u062c"),
  (0xfd2e, "\u0634\u062d \u0634\u062e \u0634\u0645 \u0633\u0647 \u0634\u0647 \u0637\u0645"),
  (0xfd34, "\u0633\u062c \u0633\u062d \u0633\u062e \u0634\u062c \u0634\u062d \u0634\u062e"),
  (0xfd3a, "\u0637\u0645 \u0638\u0645 \u0627\u064b \u0627\u064b"),
  (0xfd50, "\u062a\u062c\u0645 \u062a\u062d\u062c \u062a\u062d\u062c \u062a\u062d\u0645"),
  (0xfd54, "\u062a\u062e\u0645 \u062a\u0645\u062c \u062a\u0645\u062d \u062a\u0645\u062e"),
  (0xfd58, "\u062c\u0645\u062d \u062c\u0645\u062d \u062d\u0645\u064a \u062d\u0645\u0649"),
  (0xfd5c, "\u0633\u062d\u062c \u0633\u062c\u062d \u0633\u062c\u0649 \u0633\u0645\u062d"),
  (0xfd60, "\u0633\u0645\u062d \u0633\u0645\u062c \u0633\u0645\u0645 \u0633\u0645\u0645"),
  (0xfd64, "\u0635\u062d\u062d \u0635\u062d\u062d \u0635\u0645\u0645 \u0634\u062d\u0645"),
  (0xfd68, "\u0634\u062d\u0645 \u0634\u062c\u064a \u0634\u0645\u062e \u0634\u0645\u062e"),
  (0xfd6c, "\u0634\u0645\u0645 \u0634\u0645\u0645 \u0636\u062d\u0649 \u0636\u062e\u0645"),
  (0xfd70, "\u0636\u062e\u0645 \u0637\u0645\u062d \u0637\u0645\u062d \u0637\u0645\u0645"),
  (0xfd74, "\u0637\u0645\u064a \u0639\u062c\u0645 \u0639\u0645\u0645 \u0639\u0645\u0645"),
  (0xfd78, "\u0639\u0645\u0649 \u063a\u0645\u0645 \u063a\u0645\u064a \u063a\u0645\u0649"),
  (0xfd7c, "\u0641\u062e\u0645 \u0641\u062e\u0645 \u0642\u0645\u062d \u0642\u0645\u0645"),
  (0xfd80, "\u0644\u062d\u0645 \u0644\u062d\u064a \u0644\u062d\u0649 \u0644\u062c\u062c"),
  (0xfd84, "\u0644\u062c\u062c \u0644\u062e\u0645 \u0644\u062e\u0645 \u0644\u0645\u062d"),
  (0xfd88, "\u0644\u0645\u062d \u0645\u062d\u062c \u0645\u062d\u0645 \u0645\u062d\u064a"),
  (0xfd8c, "\u0645\u062c\u062d \u0645\u062c\u0645 \u0645\u062e\u062c \u0645\u062e\u0645"),
  (0xfd92, "\u0645\u062c\u062e \u0647\u0645\u062c \u0647\u0645\u0645 \u0646\u062d\u0645"),
  (0xfd96, "\u0646\u062d\u0649 \u0646\u062c\u0645 \u0646\u062c\u0645 \u0646\u062c\u0649"),
  (0xfd9a, "\u0646\u0645\u064a \u0646\u0645\u0649 \u064a\u0645\u0645 \u064a\u0645\u0645"),
  (0xfd9e, "\u0628\u062e\u064a \u062a\u062c\u064a \u062a\u062c\u0649 \u062a\u062e\u064a"),
  (0xfda2, "\u062a\u062e\u0649 \u062a\u0645\u064a \u062a\u0645\u0649 \u062c\u0645\u064a"),
  (0xfda6, "\u062c\u062d\u0649 \u062c\u0645\u0649 \u0633\u062e\u0649 \u0635\u062d\u064a"),
  (0xfdaa, "\u0634\u062d\u064a \u0636\u062d\u064a \u0644\u062c\u064a \u0644\u0645\u064a"),
  (0xfdae, "\u064a\u062d\u064a \u064a\u062c\u064a \u064a\u0645\u064a \u0645\u0645\u064a"),
  (0xfdb2, "\u0642\u0645\u064a \u0646\u062d\u064a \u0642\u0645\u062d \u0644\u062d\u0645"),
  (0xfdb6, "\u0639\u0645\u064a \u0643\u0645\u064a \u0646\u062c\u062d \u0645\u062e\u064a"),
  (0xfdba, "\u0644\u062c\u0645 \u0643\u0645\u0645 \u0644\u062c\u0645 \u0646\u062c\u062d"),
  (0xfdbe, "\u062c\u062d\u064a \u062d\u062c\u064a \u0645\u062c\u064a \u0641\u0645\u064a"),
  (0xfdc2, "\u0628\u062d\u064a \u0643\u0645\u0645 \u0639\u062c\u0645 \u0635\u0645\u0645"),
  (0xfdc6, "\u0633\u062e\u064a \u0646\u062c\u064a"),
  (0xfdf0, "\u0635\u0644\u06d2 \u0642\u0644\u06d2 \u0627\u0644\u0644\u0647"),
  (0xfdf3, "\u0627\u0643\u0628\u0631 \u0645\u062d\u0645\u062f \u0635\u0644\u0639\u0645"),
  (0xfdf6, "\u0631\u0633\u0648\u0644 \u0639\u0644\u064a\u0647 \u0648\u0633\u0644\u0645"),
  (0xfdf9, "\u0635\u0644\u0649 - - \u0631\u06cc\u0627\u0644"), (0xfe71, "\u0640\u064b"),
  (0xfe77, "\u0640\u064e - \u0640\u064f - \u0640\u0650 - \u0640\u0651 - \u0640\u0652"),
  (0xfef5, "\u0644\u0622 \u0644\u0622 \u0644\u0623 \u0644\u0623 \u0644\u0625 \u0644\u0625"),
  (0xfefb, "\u0644\u0627 \u0644\u0627"), (0x1d15e, "𝅗𝅥 𝅘𝅥 𝅘𝅥𝅮 𝅘𝅥𝅯 𝅘𝅥𝅰 𝅘𝅥𝅱 𝅘𝅥𝅲"),
  (0x1d1bb, "𝆹𝅥 𝆺𝅥 𝆹𝅥𝅮 𝆺𝅥𝅮 𝆹𝅥𝅯 𝆺𝅥𝅯"), (0x1f101, "0, 1, 2, 3, 4, 5, 6, 7, 8, 9,"),
  (0x1f110, "(a) (b) (c) (d) (e) (f) (g) (h) (i) (j) (k) (l) (m) (n) (o) (p) (q) (r) (s) (t)"),
  (0x1f124, "(u) (v) (w) (x) (y) (z) 〔s〕 - - cd wz"), (0x1f14a, "hv mv sd ss ppv wc"),
  (0x1f16a, "mc md mr"), (0x1f190, "dj"), (0x1f200, "ほか ココ"),
  (0x1f240, "〔本〕 〔三〕 〔二〕 〔安〕 〔点〕 〔打〕 〔盗〕 〔勝〕 〔敗〕")]

/-- Characters that stand for nothing. -/
def ignored : Ranges := [
  (0xad, 0xad), (0x34f, 0x34f), (0x115f, 0x1160), (0x17b4, 0x17b5), (0x180b, 0x180f),
  (0x200b, 0x200b), (0x2060, 0x2064), (0x206a, 0x206f), (0x3164, 0x3164), (0xfe00, 0xfe0f),
  (0xfeff, 0xfeff), (0xffa0, 0xffa0), (0x1bca0, 0x1bca3), (0x1d173, 0x1d17a), (0xe0100, 0xe01ef)]

/-- Characters beyond ASCII that no domain may hold. Those that stand for others may be among
them. -/
def disallowed : Ranges := [
  (0x80, 0xa0), (0xa8, 0xa8), (0xaf, 0xaf), (0xb4, 0xb4), (0xb8, 0xb8), (0x2d8, 0x2dd),
  (0x378, 0x37a), (0x380, 0x38d), (0x3a2, 0x3a2), (0x530, 0x558), (0x58b, 0x58c), (0x590, 0x590),
  (0x5c8, 0x5cf), (0x5eb, 0x5ee), (0x5f5, 0x605), (0x61c, 0x61c), (0x6dd, 0x6dd), (0x70e, 0x70f),
  (0x74b, 0x74c), (0x7b2, 0x7bf), (0x7fb, 0x7fc), (0x82e, 0x82f), (0x83f, 0x83f), (0x85c, 0x85d),
  (0x85f, 0x85f), (0x86b, 0x86f), (0x890, 0x896), (0x8e2, 0x8e2), (0x984, 0x984), (0x98d, 0x98e),
  (0x991, 0x992), (0x9a9, 0x9a9), (0x9b1, 0x9b1), (0x9b3, 0x9b5), (0x9ba, 0x9bb), (0x9c5, 0x9c6),
  (0x9c9, 0x9ca), (0x9cf, 0x9d6), (0x9d8, 0x9de), (0x9e4, 0x9e5), (0x9ff, 0xa00), (0xa04, 0xa04),
  (0xa0b, 0xa0e), (0xa11, 0xa12), (0xa29, 0xa29), (0xa31, 0xa31), (0xa34, 0xa34), (0xa37, 0xa37),
  (0xa3a, 0xa3b), (0xa3d, 0xa3d), (0xa43, 0xa46), (0xa49, 0xa4a), (0xa4e, 0xa50), (0xa52, 0xa58),
  (0xa5d, 0xa65), (0xa77, 0xa80), (0xa84, 0xa84), (0xa8e, 0xa8e), (0xa92, 0xa92), (0xaa9, 0xaa9),
  (0xab1, 0xab1), (0xab4, 0xab4), (0xaba, 0xabb), (0xac6, 0xac6), (0xaca, 0xaca), (0xace, 0xacf),
  (0xad1, 0xadf), (0xae4, 0xae5), (0xaf2, 0xaf8), (0xb00, 0xb00), (0xb04, 0xb04), (0xb0d, 0xb0e),
  (0xb11, 0xb12), (0xb29, 0xb29), (0xb31, 0xb31), (0xb34, 0xb34), (0xb3a, 0xb3b), (0xb45, 0xb46),
  (0xb49, 0xb4a), (0xb4e, 0xb54), (0xb58, 0xb5e), (0xb64, 0xb65), (0xb78, 0xb81), (0xb84, 0xb84),
  (0xb8b, 0xb8d), (0xb91, 0xb91), (0xb96, 0xb98), (0xb9b, 0xb9b), (0xb9d, 0xb9d), (0xba0, 0xba2),
  (0xba5, 0xba7), (0xbab, 0xbad), (0xbba, 0xbbd), (0xbc3, 0xbc5), (0xbc9, 0xbc9), (0xbce, 0xbcf),
  (0xbd1, 0xbd6), (0xbd8, 0xbe5), (0xbfb, 0xbff), (0xc0d, 0xc0d), (0xc11, 0xc11), (0xc29, 0xc29),
  (0xc3a, 0xc3b), (0xc45, 0xc45), (0xc49, 0xc49), (0xc4e, 0xc54), (0xc57, 0xc57), (0xc5b, 0xc5b),
  (0xc5e, 0xc5f), (0xc64, 0xc65), (0xc70, 0xc76), (0xc8d, 0xc8d), (0xc91, 0xc91), (0xca9, 0xca9),
  (0xcb4, 0xcb4), (0xcba, 0xcbb), (0xcc5, 0xcc5), (0xcc9, 0xcc9), (0xcce, 0xcd4), (0xcd7, 0xcdb),
  (0xcdf, 0xcdf), (0xce4, 0xce5), (0xcf0, 0xcf0), (0xcf4, 0xcff), (0xd0d, 0xd0d), (0xd11, 0xd11),
  (0xd45, 0xd45), (0xd49, 0xd49), (0xd50, 0xd53), (0xd64, 0xd65), (0xd80, 0xd80), (0xd84, 0xd84),
  (0xd97, 0xd99), (0xdb2, 0xdb2), (0xdbc, 0xdbc), (0xdbe, 0xdbf), (0xdc7, 0xdc9), (0xdcb, 0xdce),
  (0xdd5, 0xdd5), (0xdd7, 0xdd7), (0xde0, 0xde5), (0xdf0, 0xdf1), (0xdf5, 0xe00), (0xe3b, 0xe3e),
  (0xe5c, 0xe80), (0xe83, 0xe83), (0xe85, 0xe85), (0xe8b, 0xe8b), (0xea4, 0xea4), (0xea6, 0xea6),
  (0xebe, 0xebf), (0xec5, 0xec5), (0xec7, 0xec7), (0xecf, 0xecf), (0xeda, 0xedb), (0xee0, 0xeff),
  (0xf48, 0xf48), (0xf6d, 0xf70), (0xf98, 0xf98), (0xfbd, 0xfbd), (0xfcd, 0xfcd), (0xfdb, 0xfff),
  (0x10c6, 0x10cf), (0x1249, 0x1249), (0x124e, 0x124f), (0x1257, 0x1257), (0x1259, 0x1259),
  (0x125e, 0x125f), (0x1289, 0x1289), (0x128e, 0x128f), (0x12b1, 0x12b1), (0x12b6, 0x12b7),
  (0x12bf, 0x12bf), (0x12c1, 0x12c1), (0x12c6, 0x12c7), (0x12d7, 0x12d7), (0x1311, 0x1311),
  (0x1316, 0x1317), (0x135b, 0x135c), (0x137d, 0x137f), (0x139a, 0x139f), (0x13f6, 0x13ff),
  (0x1680, 0x1680), (0x169d, 0x169f), (0x16f9, 0x16ff), (0x1716, 0x171e), (0x1737, 0x173f),
  (0x1754, 0x175f), (0x176d, 0x176d), (0x1771, 0x1771), (0x1774, 0x177f), (0x17de, 0x17df),
  (0x17ea, 0x17ef), (0x17fa, 0x17ff), (0x181a, 0x181f), (0x1879, 0x187f), (0x18ab, 0x18af),
  (0x18f6, 0x18ff), (0x191f, 0x191f), (0x192c, 0x192f), (0x193c, 0x193f), (0x1941, 0x1943),
  (0x196e, 0x196f), (0x1975, 0x197f), (0x19ac, 0x19af), (0x19ca, 0x19cf), (0x19db, 0x19dd),
  (0x1a1c, 0x1a1d), (0x1a5f, 0x1a5f), (0x1a7d, 0x1a7e), (0x1a8a, 0x1a8f), (0x1a9a, 0x1a9f),
  (0x1aae, 0x1aaf), (0x1ade, 0x1adf), (0x1aec, 0x1aff), (0x1b4d, 0x1b4d), (0x1bf4, 0x1bfb),
  (0x1c38, 0x1c3a), (0x1c4a, 0x1c4c), (0x1c8b, 0x1cbc), (0x1cc8, 0x1ccf), (0x1cfb, 0x1cff),
  (0x1f16, 0x1f1f), (0x1f46, 0x1f4f), (0x1f58, 0x1f5e), (0x1f7e, 0x1f7f), (0x1fb5, 0x1fb5),
  (0x1fbd, 0x1fc5), (0x1fcd, 0x1fcf), (0x1fd4, 0x1fd5), (0x1fdc, 0x1fdf), (0x1fed, 0x1ff5),
  (0x1ffd, 0x200a), (0x200e, 0x200f), (0x2017, 0x2017), (0x2024, 0x2026), (0x2028, 0x202f),
  (0x203e, 0x203e), (0x2047, 0x2049), (0x205f, 0x209f), (0x20c2, 0x20cf), (0x20f1, 0x2101),
  (0x2105, 0x2106), (0x218c, 0x218f), (0x242a, 0x243f), (0x244b, 0x249b), (0x2a74, 0x2a74),
  (0x2b74, 0x2b75), (0x2cf4, 0x2cf8), (0x2d26, 0x2d26), (0x2d28, 0x2d2c), (0x2d2e, 0x2d2f),
  (0x2d68, 0x2d6e), (0x2d71, 0x2d7e), (0x2d97, 0x2d9f), (0x2da7, 0x2da7), (0x2daf, 0x2daf),
  (0x2db7, 0x2db7), (0x2dbf, 0x2dbf), (0x2dc7, 0x2dc7), (0x2dcf, 0x2dcf), (0x2dd7, 0x2dd7),
  (0x2ddf, 0x2ddf), (0x2e5e, 0x2e7f), (0x2e9a, 0x2e9a), (0x2ef4, 0x3000), (0x3040, 0x3040),
  (0x3097, 0x3098), (0x309b, 0x309c), (0x3100, 0x3104), (0x3130, 0x318f), (0x31e6, 0x31ef),
  (0x321f, 0x321f), (0x33c2, 0x33d8), (0xa48d, 0xa48f), (0xa4c7, 0xa4cf), (0xa62c, 0xa63f),
  (0xa6f8, 0xa6ff), (0xa7dd, 0xa7f0), (0xa82d, 0xa82f), (0xa83a, 0xa83f), (0xa878, 0xa87f),
  (0xa8c6, 0xa8cd), (0xa8da, 0xa8df), (0xa954, 0xa95e), (0xa97d, 0xa97f), (0xa9ce, 0xa9ce),
  (0xa9da, 0xa9dd), (0xa9ff, 0xa9ff), (0xaa37, 0xaa3f), (0xaa4e, 0xaa4f), (0xaa5a, 0xaa5b),
  (0xaac3, 0xaada), (0xaaf7, 0xab00), (0xab07, 0xab08), (0xab0f, 0xab10), (0xab17, 0xab1f),
  (0xab27, 0xab27), (0xab2f, 0xab2f), (0xab6c, 0xab6f), (0xabee, 0xabef), (0xabfa, 0xabff),
  (0xd7a4, 0xd7af), (0xd7c7, 0xd7ca), (0xd7fc, 0xf8ff), (0xfa6e, 0xfb1c), (0xfb37, 0xfb45),
  (0xfc5e, 0xfc63), (0xfdd0, 0xfdfb), (0xfe12, 0xfe1f), (0xfe30, 0xfe30), (0xfe47, 0xfe72),
  (0xfe74, 0xffff), (0x1000c, 0x1000c), (0x10027, 0x10027), (0x1003b, 0x1003b),
  (0x1003e, 0x1003e), (0x1004e, 0x1004f), (0x1005e, 0x1007f), (0x100fb, 0x100ff),
  (0x10103, 0x10106), (0x10134, 0x10136), (0x1018f, 0x1018f), (0x1019d, 0x1019f),
  (0x101a1, 0x101cf), (0x101fe, 0x1027f), (0x1029d, 0x1029f), (0x102d1, 0x102df),
  (0x102fc, 0x102ff), (0x10324, 0x1032c), (0x1034b, 0x1034f), (0x1037b, 0x1037f),
  (0x1039e, 0x1039e), (0x103c4, 0x103c7), (0x103d6, 0x103ff), (0x1049e, 0x1049f),
  (0x104aa, 0x104d7), (0x104fc, 0x104ff), (0x10528, 0x1052f), (0x10564, 0x1056e),
  (0x1057b, 0x10596), (0x105a2, 0x105a2), (0x105b2, 0x105b2), (0x105ba, 0x105ba),
  (0x105bd, 0x105bf), (0x105f4, 0x105ff), (0x10737, 0x1073f), (0x10756, 0x1075f),
  (0x10768, 0x1077f), (0x10786, 0x107ff), (0x10806, 0x10807), (0x10809, 0x10809),
  (0x10836, 0x10836), (0x10839, 0x1083b), (0x1083d, 0x1083e), (0x10856, 0x10856),
  (0x1089f, 0x108a6), (0x108b0, 0x108df), (0x108f3, 0x108f3), (0x108f6, 0x108fa),
  (0x1091c, 0x1091e), (0x1093a, 0x1093e), (0x1095a, 0x1097f), (0x109b8, 0x109bb),
  (0x109d0, 0x109d1), (0x10a04, 0x10a04), (0x10a07, 0x10a0b), (0x10a14, 0x10a14),
  (0x10a18, 0x10a18), (0x10a36, 0x10a37), (0x10a3b, 0x10a3e), (0x10a49, 0x10a4f),
  (0x10a59, 0x10a5f), (0x10aa0, 0x10abf), (0x10ae7, 0x10aea), (0x10af7, 0x10aff),
  (0x10b36, 0x10b38), (0x10b56, 0x10b57), (0x10b73, 0x10b77), (0x10b92, 0x10b98),
  (0x10b9d, 0x10ba8), (0x10bb0, 0x10bff), (0x10c49, 0x10cbf), (0x10cf3, 0x10cf9),
  (0x10d28, 0x10d2f), (0x10d3a, 0x10d3f), (0x10d66, 0x10d68), (0x10d86, 0x10d8d),
  (0x10d90, 0x10e5f), (0x10e7f, 0x10e7f), (0x10eaa, 0x10eaa), (0x10eae, 0x10eaf),
  (0x10eb2, 0x10ec1), (0x10ec8, 0x10ecf), (0x10ed9, 0x10ef9), (0x10f28, 0x10f2f),
  (0x10f5a, 0x10f6f), (0x10f8a, 0x10faf), (0x10fcc, 0x10fdf), (0x10ff7, 0x10fff),
  (0x1104e, 0x11051), (0x11076, 0x1107e), (0x110bd, 0x110bd), (0x110c3, 0x110cf),
  (0x110e9, 0x110ef), (0x110fa, 0x110ff), (0x11135, 0x11135), (0x11148, 0x1114f),
  (0x11177, 0x1117f), (0x111e0, 0x111e0), (0x111f5, 0x111ff), (0x11212, 0x11212),
  (0x11242, 0x1127f), (0x11287, 0x11287), (0x11289, 0x11289), (0x1128e, 0x1128e),
  (0x1129e, 0x1129e), (0x112aa, 0x112af), (0x112eb, 0x112ef), (0x112fa, 0x112ff),
  (0x11304, 0x11304), (0x1130d, 0x1130e), (0x11311, 0x11312), (0x11329, 0x11329),
  (0x11331, 0x11331), (0x11334, 0x11334), (0x1133a, 0x1133a), (0x11345, 0x11346),
  (0x11349, 0x1134a), (0x1134e, 0x1134f), (0x11351, 0x11356), (0x11358, 0x1135c),
  (0x11364, 0x11365), (0x1136d, 0x1136f), (0x11375, 0x1137f), (0x1138a, 0x1138a),
  (0x1138c, 0x1138d), (0x1138f, 0x1138f), (0x113b6, 0x113b6), (0x113c1, 0x113c1),
  (0x113c3, 0x113c4), (0x113c6, 0x113c6), (0x113cb, 0x113cb), (0x113d6, 0x113d6),
  (0x113d9, 0x113e0), (0x113e3, 0x113ff), (0x1145c, 0x1145c), (0x11462, 0x1147f),
  (0x114c8, 0x114cf), (0x114da, 0x1157f), (0x115b6, 0x115b7), (0x115de, 0x115ff),
  (0x11645, 0x1164f), (0x1165a, 0x1165f), (0x1166d, 0x1167f), (0x116ba, 0x116bf),
  (0x116ca, 0x116cf), (0x116e4, 0x116ff), (0x1171b, 0x1171c), (0x1172c, 0x1172f),
  (0x11747, 0x117ff), (0x1183c, 0x1189f), (0x118f3, 0x118fe), (0x11907, 0x11908),
  (0x1190a, 0x1190b), (0x11914, 0x11914), (0x11917, 0x11917), (0x11936, 0x11936),
  (0x11939, 0x1193a), (0x11947, 0x1194f), (0x1195a, 0x1199f), (0x119a8, 0x119a9),
  (0x119d8, 0x119d9), (0x119e5, 0x119ff), (0x11a48, 0x11a4f), (0x11aa3, 0x11aaf),
  (0x11af9, 0x11aff), (0x11b0a, 0x11b5f), (0x11b68, 0x11bbf), (0x11be2, 0x11bef),
  (0x11bfa, 0x11bff), (0x11c09, 0x11c09), (0x11c37, 0x11c37), (0x11c46, 0x11c4f),
  (0x11c6d, 0x11c6f), (0x11c90, 0x11c91), (0x11ca8, 0x11ca8), (0x11cb7, 0x11cff),
  (0x11d07, 0x11d07), (0x11d0a, 0x11d0a), (0x11d37, 0x11d39), (0x11d3b, 0x11d3b),
  (0x11d3e, 0x11d3e), (0x11d48, 0x11d4f), (0x11d5a, 0x11d5f), (0x11d66, 0x11d66),
  (0x11d69, 0x11d69), (0x11d8f, 0x11d8f), (0x11d92, 0x11d92), (0x11d99, 0x11d9f),
  (0x11daa, 0x11daf), (0x11ddc, 0x11ddf), (0x11dea, 0x11edf), (0x11ef9, 0x11eff),
  (0x11f11, 0x11f11), (0x11f3b, 0x11f3d), (0x11f5b, 0x11faf), (0x11fb1, 0x11fbf),
  (0x11ff2, 0x11ffe), (0x1239a, 0x123ff), (0x1246f, 0x1246f), (0x12475, 0x1247f),
  (0x12544, 0x12f8f), (0x12ff3, 0x12fff), (0x13430, 0x1343f), (0x13456, 0x1345f),
  (0x143fb, 0x143ff), (0x14647, 0x160ff), (0x1613a, 0x167ff), (0x16a39, 0x16a3f),
  (0x16a5f, 0x16a5f), (0x16a6a, 0x16a6d), (0x16abf, 0x16abf), (0x16aca, 0x16acf),
  (0x16aee, 0x16aef), (0x16af6, 0x16aff), (0x16b46, 0x16b4f), (0x16b5a, 0x16b5a),
  (0x16b62, 0x16b62), (0x16b78, 0x16b7c), (0x16b90, 0x16d3f), (0x16d7a, 0x16e3f),
  (0x16e9b, 0x16eba), (0x16ed4, 0x16eff), (0x16f4b, 0x16f4e), (0x16f88, 0x16f8e),
  (0x16fa0, 0x16fdf), (0x16fe5, 0x16fef), (0x16ff7, 0x16fff), (0x18cd6, 0x18cfe),
  (0x18d1f, 0x18d7f), (0x18df3, 0x1afef), (0x1aff4, 0x1aff4), (0x1affc, 0x1affc),
  (0x1afff, 0x1afff), (0x1b123, 0x1b131), (0x1b133, 0x1b14f), (0x1b153, 0x1b154),
  (0x1b156, 0x1b163), (0x1b168, 0x1b16f), (0x1b2fc, 0x1bbff), (0x1bc6b, 0x1bc6f),
  (0x1bc7d, 0x1bc7f), (0x1bc89, 0x1bc8f), (0x1bc9a, 0x1bc9b), (0x1bca4, 0x1cbff),
  (0x1ccfd, 0x1ccff), (0x1ceb4, 0x1ceb9), (0x1ced1, 0x1cedf), (0x1cef1, 0x1ceff),
  (0x1cf2e, 0x1cf2f), (0x1cf47, 0x1cf4f), (0x1cfc4, 0x1cfff), (0x1d0f6, 0x1d0ff),
  (0x1d127, 0x1d128), (0x1d1eb, 0x1d1ff), (0x1d246, 0x1d2bf), (0x1d2d4, 0x1d2df),
  (0x1d2f4, 0x1d2ff), (0x1d357, 0x1d35f), (0x1d379, 0x1d7cd), (0x1da8c, 0x1da9a),
  (0x1daa0, 0x1daa0), (0x1dab0, 0x1deff), (0x1df1f, 0x1df24), (0x1df2b, 0x1dfff),
  (0x1e007, 0x1e007), (0x1e019, 0x1e01a), (0x1e022, 0x1e022), (0x1e025, 0x1e025),
  (0x1e02b, 0x1e08e), (0x1e090, 0x1e0ff), (0x1e12d, 0x1e12f), (0x1e13e, 0x1e13f),
  (0x1e14a, 0x1e14d), (0x1e150, 0x1e28f), (0x1e2af, 0x1e2bf), (0x1e2fa, 0x1e2fe),
  (0x1e300, 0x1e4cf), (0x1e4fa, 0x1e5cf), (0x1e5fb, 0x1e5fe), (0x1e600, 0x1e6bf),
  (0x1e6df, 0x1e6df), (0x1e6f6, 0x1e6fd), (0x1e700, 0x1e7df), (0x1e7e7, 0x1e7e7),
  (0x1e7ec, 0x1e7ec), (0x1e7ef, 0x1e7ef), (0x1e7ff, 0x1e7ff), (0x1e8c5, 0x1e8c6),
  (0x1e8d7, 0x1e8ff), (0x1e94c, 0x1e94f), (0x1e95a, 0x1e95d), (0x1e960, 0x1ec70),
  (0x1ecb5, 0x1ed00), (0x1ed3e, 0x1eeef), (0x1eef2, 0x1efff), (0x1f02c, 0x1f02f),
  (0x1f094, 0x1f09f), (0x1f0af, 0x1f0b0), (0x1f0c0, 0x1f0c0), (0x1f0d0, 0x1f0d0),
  (0x1f0f6, 0x1f100), (0x1f1ae, 0x1f1e5), (0x1f203, 0x1f25f), (0x1f266, 0x1f2ff),
  (0x1f6d9, 0x1f6db), (0x1f6ed, 0x1f6ef), (0x1f6fd, 0x1f6ff), (0x1f7da, 0x1f7df),
  (0x1f7ec, 0x1f7ef), (0x1f7f1, 0x1f7ff), (0x1f80c, 0x1f80f), (0x1f848, 0x1f84f),
  (0x1f85a, 0x1f85f), (0x1f888, 0x1f88f), (0x1f8ae, 0x1f8af), (0x1f8bc, 0x1f8bf),
  (0x1f8c2, 0x1f8cf), (0x1f8d9, 0x1f8ff), (0x1fa58, 0x1fa5f), (0x1fa6e, 0x1fa6f),
  (0x1fa7d, 0x1fa7f), (0x1fa8b, 0x1fa8d), (0x1fac7, 0x1fac7), (0x1fac9, 0x1facc),
  (0x1fadd, 0x1fade), (0x1faeb, 0x1faee), (0x1faf9, 0x1faff), (0x1fb93, 0x1fb93),
  (0x1fbfb, 0x1ffff), (0x2a6e0, 0x2a6ff), (0x2b81e, 0x2b81f), (0x2ceae, 0x2ceaf),
  (0x2ebe1, 0x2ebef), (0x2ee5e, 0x2ffff), (0x3134b, 0x3134f), (0x3347a, 0x10ffff)]

end StyleTree.Domain
