/-!
# Forms of characters

Many characters are only another form of other ones: full-width, raised, lowered, circled or joined
letters, letters styled for mathematics, ideographs that were encoded twice, whole words in one
character. Capital letters among them count as forms of the small ones. The few capital letters
that the small ones are counted as forms of are listed as forms of themselves.

## Main definitions

* `formRuns` — these characters, in runs.
* `form?` — what a character is a form of.
-/

namespace Catalog.Text

/-- Neighbouring characters that are forms of others; where the forms end, they start over. -/
structure FormRun where
  first : Nat
  last : Nat
  forms : Array (List Char)

/-- Characters from a first one on that are each a form of one character. -/
def letters (first : Nat) (forms : String) : FormRun :=
  ⟨first, first + (forms.length - 1), (forms.toList.map ([·])).toArray⟩

/-- Characters from a first one on that are each a form of a word; blanks part the words. -/
def words (first : Nat) (forms : String) : FormRun :=
  let list := (forms.splitOn " ").map String.toList
  ⟨first, first + (list.length - 1), list.toArray⟩

/-- Characters that are each a form of one character, over and over. -/
def cycle (first last : Nat) (forms : String) : FormRun :=
  ⟨first, last, (forms.toList.map ([·])).toArray⟩

/-- The characters that are forms of others. -/
def formRuns : List FormRun :=
  [letters 0xaa "a", letters 0xb2 "23", letters 0xb5 "μ", letters 0xb9 "1o",
   words 0xbc "1⁄4 1⁄2 3⁄4", words 0x132 "ij ij", words 0x13f "l· l·", words 0x149 "ʼn",
   letters 0x17f "s", words 0x1c4 "dž dž dž lj lj lj nj nj nj", words 0x1f1 "dz dz dz",
   letters 0x2b0 "hɦjrɹɻʁwy", letters 0x2e0 "ɣlsxʕ", letters 0x340 "\u0300\u0301",
   words 0x343 "\u0313 \u0308\u0301 ι", letters 0x374 "ʹ", letters 0x37e ";", letters 0x387 "·",
   letters 0x3d0 "βθυύϋφπ", letters 0x3f0 "κρσ", letters 0x3f5 "ε", letters 0x3f9 "σ",
   words 0x587 "եւ", words 0x675 "\u0627\u0674 \u0648\u0674 \u06c7\u0674 \u064a\u0674",
   words 0x958 "क\u093c ख\u093c ग\u093c ज\u093c ड\u093c ढ\u093c फ\u093c य\u093c",
   words 0x9dc "ড\u09bc ঢ\u09bc", words 0x9df "য\u09bc", words 0xa33 "ਲ\u0a3c",
   words 0xa36 "ਸ\u0a3c", words 0xa59 "ਖ\u0a3c ਗ\u0a3c ਜ\u0a3c", words 0xa5e "ਫ\u0a3c",
   words 0xb5c "ଡ\u0b3c ଢ\u0b3c", words 0xe33 "\u0e4dา", words 0xeb3 "\u0ecdາ", words 0xedc "ຫນ ຫມ",
   letters 0xf0c "་", words 0xf43 "ག\u0fb7", words 0xf4d "ཌ\u0fb7", words 0xf52 "ད\u0fb7",
   words 0xf57 "བ\u0fb7", words 0xf5c "ཛ\u0fb7", words 0xf69 "ཀ\u0fb5", words 0xf73 "\u0f71\u0f72",
   words 0xf75 "\u0f71\u0f74 \u0fb2\u0f80 \u0fb2\u0f71\u0f80 \u0fb3\u0f80 \u0fb3\u0f71\u0f80",
   words 0xf81 "\u0f71\u0f80", words 0xf93 "\u0f92\u0fb7", words 0xf9d "\u0f9c\u0fb7",
   words 0xfa2 "\u0fa1\u0fb7", words 0xfa7 "\u0fa6\u0fb7", words 0xfac "\u0fab\u0fb7",
   words 0xfb9 "\u0f90\u0fb5", letters 0x10fc "ნ",
   letters 0x13a0 "ᎠᎡᎢᎣᎤᎥᎦᎧᎨᎩᎪᎫᎬᎭᎮᎯᎰᎱᎲᎳᎴᎵᎶᎷᎸᎹᎺᎻᎼᎽᎾᎿᏀᏁᏂᏃᏄᏅᏆᏇᏈᏉᏊᏋᏌᏍᏎᏏᏐᏑᏒᏓᏔᏕᏖᏗᏘᏙᏚᏛᏜᏝᏞᏟᏠᏡᏢᏣᏤᏥᏦᏧᏨᏩᏪᏫᏬᏭᏮ",
   letters 0x13ef "ᏯᏰᏱᏲᏳᏴᏵ", letters 0x13f8 "ᏰᏱᏲᏳᏴᏵ", letters 0x1c80 "вдосттъѣꙋ",
   letters 0x1d2c "aæb", letters 0x1d30 "deǝghijklmn", letters 0x1d3c "oȣprtuwaɐɑᴂbdeəɛɜg",
   letters 0x1d4f "kmŋoɔᴖᴗptuᴝɯvᴥβγδφχiruvβγρφχ", letters 0x1d78 "н",
   letters 0x1d9b "ɒcɕðɜfɟɡɥɨɩɪᵻʝɭᶅʟɱɰɲɳɴɵɸʂʃƫʉʊᴜʋʌzʐʑʒθ", words 0x1e9a "aʾ ṡ", letters 0x1f71 "ά",
   letters 0x1f73 "έ", letters 0x1f75 "ή", letters 0x1f77 "ί", letters 0x1f79 "ό",
   letters 0x1f7b "ύ", letters 0x1f7d "ώ",
   words 0x1f80 "ἀι ἁι ἂι ἃι ἄι ἅι ἆι ἇι ἀι ἁι ἂι ἃι ἄι ἅι ἆι ἇι ἠι ἡι ἢι ἣι ἤι ἥι ἦι ἧι ἠι ἡι ἢι",
   words 0x1f9b "ἣι ἤι ἥι ἦι ἧι ὠι ὡι ὢι ὣι ὤι ὥι ὦι ὧι ὠι ὡι ὢι ὣι ὤι ὥι ὦι ὧι",
   words 0x1fb2 "ὰι αι άι", words 0x1fb7 "ᾶι", words 0x1fbb "ά αι", letters 0x1fbe "ι",
   words 0x1fc2 "ὴι ηι ήι", words 0x1fc7 "ῆι", letters 0x1fc9 "έ", words 0x1fcb "ή ηι",
   letters 0x1fd3 "ΐ", letters 0x1fdb "ί", letters 0x1fe3 "ΰ", letters 0x1feb "ύ",
   letters 0x1fef "`", words 0x1ff2 "ὼι ωι ώι", words 0x1ff7 "ῶι", letters 0x1ff9 "ό",
   words 0x1ffb "ώ ωι", letters 0x2011 "‐", words 0x2033 "′′ ′′′", words 0x2036 "‵‵ ‵‵‵",
   words 0x203c "!!", words 0x2057 "′′′′", letters 0x2070 "0i",
   letters 0x2074 "456789+−=()n0123456789+−=()", letters 0x2090 "aeoxəhklmnpst", words 0x20a8 "rs",
   words 0x2102 "c °c", letters 0x2107 "ɛ", words 0x2109 "°f", letters 0x210a "ghhhhħiill",
   words 0x2115 "n no", letters 0x2119 "pqrrr", words 0x2120 "sm tel tm", letters 0x2124 "z",
   letters 0x2128 "z", letters 0x212c "bc", letters 0x212f "eef",
   letters 0x2133 "mo\u05d0\u05d1\u05d2\u05d3i", words 0x213b "fax π γ γ π ∑",
   letters 0x2145 "ddeij",
   words 0x2150 "1⁄7 1⁄9 1⁄10 1⁄3 2⁄3 1⁄5 2⁄5 3⁄5 4⁄5 1⁄6 5⁄6 1⁄8 3⁄8 5⁄8 7⁄8 1⁄ i ii iii iv v vi",
   words 0x2166 "vii viii ix x xi xii l c d m i ii iii iv v vi vii viii ix x xi xii l c d m",
   words 0x2189 "0⁄3", words 0x222c "∫∫ ∫∫∫", words 0x222f "∮∮ ∮∮∮", letters 0x2329 "〈〉",
   letters 0x2460 "123456789",
   words 0x2469 "10 11 12 13 14 15 16 17 18 19 20 (1) (2) (3) (4) (5) (6) (7) (8) (9) (10) (11)",
   words 0x247f "(12) (13) (14) (15) (16) (17) (18) (19) (20)",
   words 0x249c "(a) (b) (c) (d) (e) (f) (g) (h) (i) (j) (k) (l) (m) (n) (o) (p) (q) (r) (s) (t)",
   words 0x24b0 "(u) (v) (w) (x) (y) (z)",
   letters 0x24b6 "abcdefghijklmnopqrstuvwxyzabcdefghijklmnopqrstuvwxyz0", words 0x2a0c "∫∫∫∫",
   words 0x2a75 "== ===", words 0x2adc "⫝\u0338", letters 0x2c7c "jv", letters 0x2d6f "ⵡ",
   letters 0x2e9f "母", letters 0x2ef3 "龟",
   letters 0x2f00 "一丨丶丿乙亅二亠人儿入八冂冖冫几凵刀力勹匕匚匸十卜卩厂厶又口囗土士夂夊夕大女子宀寸小尢尸屮山巛工己巾干幺广廴廾弋弓彐彡彳心戈戶手支攴文斗斤方无日曰月木欠止歹殳",
   letters 0x2f4f "毋比毛氏气水火爪父爻爿片牙牛犬玄玉瓜瓦甘生用田疋疒癶白皮皿目矛矢石示禸禾穴立竹米糸缶网羊羽老而耒耳聿肉臣自至臼舌舛舟艮色艸虍虫血行衣襾見角言谷豆豕豸貝赤走足身",
   letters 0x2f9e "車辛辰辵邑酉釆里金長門阜隶隹雨靑非面革韋韭音頁風飛食首香馬骨高髟鬥鬯鬲鬼魚鳥鹵鹿麥麻黃黍黑黹黽鼎鼓鼠鼻齊齒龍龜龠", letters 0x3002 ".",
   letters 0x3036 "〒", letters 0x3038 "十卄卅", words 0x309f "より", words 0x30ff "コト",
   letters 0x3131 "ᄀᄁᆪᄂᆬᆭᄃᄄᄅᆰᆱᆲᆳᆴᆵᄚᄆᄇᄈᄡᄉᄊᄋᄌᄍᄎᄏᄐᄑ하ᅢᅣᅤᅥᅦᅧᅨᅩᅪᅫᅬᅭᅮᅯᅰᅱᅲᅳᅴᅵ",
   letters 0x3165 "ᄔᄕᇇᇈᇌᇎᇓᇗᇙᄜᇝᇟᄝᄞᄠᄢᄣᄧᄩᄫᄬᄭᄮᄯᄲᄶᅀᅇᅌᇱᇲᅗᅘᅙᆄᆅᆈᆑᆒᆔᆞᆡ", letters 0x3192 "一二三四上中下甲乙丙丁天地人",
   words 0x3200 "(ᄀ) (ᄂ) (ᄃ) (ᄅ) (ᄆ) (ᄇ) (ᄉ) (ᄋ) (ᄌ) (ᄎ) (ᄏ) (ᄐ) (ᄑ) (ᄒ) (가) (나) (다) (라) (마) (바)",
   words 0x3214 "(사) (아) (자) (차) (카) (타) (파) (하) (주) (오전) (오후)",
   words 0x3220 "(一) (二) (三) (四) (五) (六) (七) (八) (九) (十) (月) (火) (水) (木) (金) (土) (日) (株) (有) (社)",
   words 0x3234 "(名) (特) (財) (祝) (労) (代) (呼) (学) (監) (企) (資) (協) (祭) (休) (自) (至) 問 幼 文 箏",
   words 0x3250 "pte 21 22 23 24 25 26 27 28 29 30 31 32 33 34 35",
   letters 0x3260 "ᄀᄂᄃᄅᄆᄇᄉᄋᄌᄎᄏᄐᄑᄒ가나다라마바사아자차카타파하", words 0x327c "참고 주의 우",
   letters 0x3280 "一二三四五六七八九十月火水木金土日株有社名特財祝労秘男女適優印注項休写正上中下左右医宗学監企資協夜",
   words 0x32b1 "36 37 38 39 40 41 42 43 44 45 46 47 48 49 50 1月 2月 3月 4月 5月 6月 7月 8月 9月 10月 11月",
   words 0x32cb "12月 hg erg ev ltd",
   letters 0x32d0 "アイウエオカキクケコサシスセソタチツテトナニヌネノハヒフヘホマミムメモヤユヨラリルレロワヰヱヲ",
   words 0x32ff "令和 アパート アルファ アンペア アール イニング インチ ウォン エスクード エーカー オンス オーム カイリ カラット カロリー ガロン ガンマ ギガ",
   words 0x3311 "ギニー キュリー ギルダー キロ キログラム キロメートル キロワット グラム グラムトン クルゼイロ クローネ ケース コルナ コーポ サイクル サンチーム",
   words 0x3321 "シリング センチ セント ダース デシ ドル トン ナノ ノット ハイツ パーセント パーツ バーレル ピアストル ピクル ピコ ビル ファラッド フィート",
   words 0x3334 "ブッシェル フラン ヘクタール ペソ ペニヒ ヘルツ ペンス ページ ベータ ポイント ボルト ホン ポンド ホール ホーン マイクロ マイル マッハ マルク",
   words 0x3347 "マンション ミクロン ミリ ミリバール メガ メガトン メートル ヤード ヤール ユアン リットル リラ ルピー ルーブル レム レントゲン ワット 0点 1点",
   words 0x335a "2点 3点 4点 5点 6点 7点 8点 9点 10点 11点 12点 13点 14点 15点 16点 17点 18点 19点 20点 21点 22点 23点",
   words 0x3370 "24点 hpa da au bar ov pc dm dm2 dm3 iu 平成 昭和 大正 明治 株式会社 pa na μa ma ka kb mb gb",
   words 0x3388 "cal kcal pf nf μf μg mg kg hz khz mhz ghz thz μl ml dl kl fm nm μm mm cm km mm2",
   words 0x33a0 "cm2 m2 km2 mm3 cm3 m3 km3 m∕s m∕s2 pa kpa mpa gpa rad rad∕s rad∕s2 ps ns μs ms pv",
   words 0x33b5 "nv μv mv kv mv pw nw μw mw kw mw kω mω", words 0x33c3 "bq cc cd c∕kg",
   words 0x33c8 "db gy ha hp in kk km kt lm ln log lx mb mil mol ph",
   words 0x33d9 "ppm pr sr sv wb v∕m a∕m 1日 2日 3日 4日 5日 6日 7日 8日 9日 10日 11日 12日 13日 14日 15日 16日",
   words 0x33f0 "17日 18日 19日 20日 21日 22日 23日 24日 25日 26日 27日 28日 29日 30日 31日 gal",
   letters 0xa69c "ъь", letters 0xa770 "ꝯ", letters 0xa7f1 "scfq", letters 0xa7f8 "ħœ",
   letters 0xab5c "ꜧꬷɫꭒ", letters 0xab69 "ʍ",
   letters 0xab70 "ᎠᎡᎢᎣᎤᎥᎦᎧᎨᎩᎪᎫᎬᎭᎮᎯᎰᎱᎲᎳᎴᎵᎶᎷᎸᎹᎺᎻᎼᎽᎾᎿᏀᏁᏂᏃᏄᏅᏆᏇᏈᏉᏊᏋᏌᏍᏎᏏᏐᏑᏒᏓᏔᏕᏖᏗᏘᏙᏚᏛᏜᏝᏞᏟᏠᏡᏢᏣᏤᏥᏦᏧᏨᏩᏪᏫᏬᏭᏮ",
   letters 0xabbf "Ꮿ",
   letters 0xf900 "豈更車賈滑串句龜龜契金喇奈懶癩羅蘿螺裸邏樂洛烙珞落酪駱亂卵欄爛蘭鸞嵐濫藍襤拉臘蠟廊朗浪狼郎來冷勞擄櫓爐盧老蘆虜路露魯鷺碌祿綠菉錄鹿論壟弄籠聾牢磊賂雷壘屢樓淚漏",
   letters 0xf94f "累縷陋勒肋凜凌稜綾菱陵讀拏樂諾丹寧怒率異北磻便復不泌數索參塞省葉說殺辰沈拾若掠略亮兩凉梁糧良諒量勵呂女廬旅濾礪閭驪麗黎力曆歷轢年憐戀撚漣煉璉秊練聯輦蓮連鍊列劣",
   letters 0xf99e "咽烈裂說廉念捻殮簾獵令囹寧嶺怜玲瑩羚聆鈴零靈領例禮醴隸惡了僚寮尿料樂燎療蓼遼龍暈阮劉杻柳流溜琉留硫紐類六戮陸倫崙淪輪律慄栗率隆利吏履易李梨泥理痢罹裏裡里離匿溺",
   letters 0xf9ed "吝燐璘藺隣鱗麟林淋臨立笠粒狀炙識什茶刺切度拓糖宅洞暴輻行降見廓兀嗀", letters 0xfa10 "塚", letters 0xfa12 "晴",
   letters 0xfa15 "凞猪益礼神祥福靖精羽", letters 0xfa20 "蘒", letters 0xfa22 "諸", letters 0xfa25 "逸都",
   letters 0xfa2a "飯飼館鶴郞隷侮僧免勉勤卑喝嘆器塀墨層屮悔慨憎懲敏既暑梅海渚漢煮爫琢碑社祉祈祐祖祝禍禎穀突節練縉繁署者臭艹艹著褐視謁謹賓贈辶逸難響頻恵𤋮舘",
   letters 0xfa70 "並况全侀充冀勇勺喝啕喙嗢塚墳奄奔婢嬨廒廙彩徭惘慎愈憎慠懲戴揄搜摒敖晴朗望杖歹殺流滛滋漢瀞煮瞧爵犯猪瑱甆画瘝瘟益盛直睊着磌窱節类絛練缾者荒華蝹襁覆視調諸請謁諾諭",
   letters 0xfabf "謹變贈輸遲醙鉶陼難靖韛響頋頻鬒龜𢡊𢡄𣏕㮝䀘䀹𥉉𥳐𧻓齃龎", words 0xfb00 "ff fi fl ffi ffl st st",
   words 0xfb13 "մն մե մի վն մխ", words 0xfb1d "\u05d9\u05b4", words 0xfb1f "\u05f2\u05b7",
   letters 0xfb20 "\u05e2\u05d0\u05d3\u05d4\u05db\u05dc\u05dd\u05e8\u05ea+",
   words 0xfb2a "\u05e9\u05c1 \u05e9\u05c2 \u05e9\u05bc\u05c1 \u05e9\u05bc\u05c2 \u05d0\u05b7",
   words 0xfb2f "\u05d0\u05b8 \u05d0\u05bc \u05d1\u05bc \u05d2\u05bc \u05d3\u05bc \u05d4\u05bc",
   words 0xfb35 "\u05d5\u05bc \u05d6\u05bc",
   words 0xfb38 "\u05d8\u05bc \u05d9\u05bc \u05da\u05bc \u05db\u05bc \u05dc\u05bc",
   words 0xfb3e "\u05de\u05bc", words 0xfb40 "\u05e0\u05bc \u05e1\u05bc",
   words 0xfb43 "\u05e3\u05bc \u05e4\u05bc",
   words 0xfb46 "\u05e6\u05bc \u05e7\u05bc \u05e8\u05bc \u05e9\u05bc \u05ea\u05bc \u05d5\u05b9",
   words 0xfb4c "\u05d1\u05bf \u05db\u05bf \u05e4\u05bf \u05d0\u05dc",
   letters 0xfb50 "\u0671\u0671\u067b\u067b\u067b\u067b\u067e\u067e\u067e\u067e\u0680\u0680\u0680",
   letters 0xfb5d "\u0680\u067a\u067a\u067a\u067a\u067f\u067f\u067f\u067f\u0679\u0679\u0679\u0679",
   letters 0xfb6a "\u06a4\u06a4\u06a4\u06a4\u06a6\u06a6\u06a6\u06a6\u0684\u0684\u0684\u0684\u0683",
   letters 0xfb77 "\u0683\u0683\u0683\u0686\u0686\u0686\u0686\u0687\u0687\u0687\u0687\u068d\u068d",
   letters 0xfb84 "\u068c\u068c\u068e\u068e\u0688\u0688\u0698\u0698\u0691\u0691\u06a9\u06a9\u06a9",
   letters 0xfb91 "\u06a9\u06af\u06af\u06af\u06af\u06b3\u06b3\u06b3\u06b3\u06b1\u06b1\u06b1\u06b1",
   letters 0xfb9e "\u06ba\u06ba\u06bb\u06bb\u06bb\u06bb\u06c0\u06c0\u06c1\u06c1\u06c1\u06c1\u06be",
   letters 0xfbab "\u06be\u06be\u06be\u06d2\u06d2\u06d3\u06d3",
   letters 0xfbd3 "\u06ad\u06ad\u06ad\u06ad\u06c7\u06c7\u06c6\u06c6\u06c8\u06c8",
   words 0xfbdd "\u06c7\u0674",
   letters 0xfbde "\u06cb\u06cb\u06c5\u06c5\u06c9\u06c9\u06d0\u06d0\u06d0\u06d0\u0649\u0649",
   words 0xfbea "\u0626\u0627 \u0626\u0627 \u0626\u06d5 \u0626\u06d5 \u0626\u0648 \u0626\u0648",
   words 0xfbf0 "\u0626\u06c7 \u0626\u06c7 \u0626\u06c6 \u0626\u06c6 \u0626\u06c8 \u0626\u06c8",
   words 0xfbf6 "\u0626\u06d0 \u0626\u06d0 \u0626\u06d0 \u0626\u0649 \u0626\u0649 \u0626\u0649",
   words 0xfbfc "\u06cc \u06cc \u06cc \u06cc \u0626\u062c \u0626\u062d \u0626\u0645 \u0626\u0649",
   words 0xfc04 "\u0626\u064a \u0628\u062c \u0628\u062d \u0628\u062e \u0628\u0645 \u0628\u0649",
   words 0xfc0a "\u0628\u064a \u062a\u062c \u062a\u062d \u062a\u062e \u062a\u0645 \u062a\u0649",
   words 0xfc10 "\u062a\u064a \u062b\u062c \u062b\u0645 \u062b\u0649 \u062b\u064a \u062c\u062d",
   words 0xfc16 "\u062c\u0645 \u062d\u062c \u062d\u0645 \u062e\u062c \u062e\u062d \u062e\u0645",
   words 0xfc1c "\u0633\u062c \u0633\u062d \u0633\u062e \u0633\u0645 \u0635\u062d \u0635\u0645",
   words 0xfc22 "\u0636\u062c \u0636\u062d \u0636\u062e \u0636\u0645 \u0637\u062d \u0637\u0645",
   words 0xfc28 "\u0638\u0645 \u0639\u062c \u0639\u0645 \u063a\u062c \u063a\u0645 \u0641\u062c",
   words 0xfc2e "\u0641\u062d \u0641\u062e \u0641\u0645 \u0641\u0649 \u0641\u064a \u0642\u062d",
   words 0xfc34 "\u0642\u0645 \u0642\u0649 \u0642\u064a \u0643\u0627 \u0643\u062c \u0643\u062d",
   words 0xfc3a "\u0643\u062e \u0643\u0644 \u0643\u0645 \u0643\u0649 \u0643\u064a \u0644\u062c",
   words 0xfc40 "\u0644\u062d \u0644\u062e \u0644\u0645 \u0644\u0649 \u0644\u064a \u0645\u062c",
   words 0xfc46 "\u0645\u062d \u0645\u062e \u0645\u0645 \u0645\u0649 \u0645\u064a \u0646\u062c",
   words 0xfc4c "\u0646\u062d \u0646\u062e \u0646\u0645 \u0646\u0649 \u0646\u064a \u0647\u062c",
   words 0xfc52 "\u0647\u0645 \u0647\u0649 \u0647\u064a \u064a\u062c \u064a\u062d \u064a\u062e",
   words 0xfc58 "\u064a\u0645 \u064a\u0649 \u064a\u064a \u0630\u0670 \u0631\u0670 \u0649\u0670",
   words 0xfc64 "\u0626\u0631 \u0626\u0632 \u0626\u0645 \u0626\u0646 \u0626\u0649 \u0626\u064a",
   words 0xfc6a "\u0628\u0631 \u0628\u0632 \u0628\u0645 \u0628\u0646 \u0628\u0649 \u0628\u064a",
   words 0xfc70 "\u062a\u0631 \u062a\u0632 \u062a\u0645 \u062a\u0646 \u062a\u0649 \u062a\u064a",
   words 0xfc76 "\u062b\u0631 \u062b\u0632 \u062b\u0645 \u062b\u0646 \u062b\u0649 \u062b\u064a",
   words 0xfc7c "\u0641\u0649 \u0641\u064a \u0642\u0649 \u0642\u064a \u0643\u0627 \u0643\u0644",
   words 0xfc82 "\u0643\u0645 \u0643\u0649 \u0643\u064a \u0644\u0645 \u0644\u0649 \u0644\u064a",
   words 0xfc88 "\u0645\u0627 \u0645\u0645 \u0646\u0631 \u0646\u0632 \u0646\u0645 \u0646\u0646",
   words 0xfc8e "\u0646\u0649 \u0646\u064a \u0649\u0670 \u064a\u0631 \u064a\u0632 \u064a\u0645",
   words 0xfc94 "\u064a\u0646 \u064a\u0649 \u064a\u064a \u0626\u062c \u0626\u062d \u0626\u062e",
   words 0xfc9a "\u0626\u0645 \u0626\u0647 \u0628\u062c \u0628\u062d \u0628\u062e \u0628\u0645",
   words 0xfca0 "\u0628\u0647 \u062a\u062c \u062a\u062d \u062a\u062e \u062a\u0645 \u062a\u0647",
   words 0xfca6 "\u062b\u0645 \u062c\u062d \u062c\u0645 \u062d\u062c \u062d\u0645 \u062e\u062c",
   words 0xfcac "\u062e\u0645 \u0633\u062c \u0633\u062d \u0633\u062e \u0633\u0645 \u0635\u062d",
   words 0xfcb2 "\u0635\u062e \u0635\u0645 \u0636\u062c \u0636\u062d \u0636\u062e \u0636\u0645",
   words 0xfcb8 "\u0637\u062d \u0638\u0645 \u0639\u062c \u0639\u0645 \u063a\u062c \u063a\u0645",
   words 0xfcbe "\u0641\u062c \u0641\u062d \u0641\u062e \u0641\u0645 \u0642\u062d \u0642\u0645",
   words 0xfcc4 "\u0643\u062c \u0643\u062d \u0643\u062e \u0643\u0644 \u0643\u0645 \u0644\u062c",
   words 0xfcca "\u0644\u062d \u0644\u062e \u0644\u0645 \u0644\u0647 \u0645\u062c \u0645\u062d",
   words 0xfcd0 "\u0645\u062e \u0645\u0645 \u0646\u062c \u0646\u062d \u0646\u062e \u0646\u0645",
   words 0xfcd6 "\u0646\u0647 \u0647\u062c \u0647\u0645 \u0647\u0670 \u064a\u062c \u064a\u062d",
   words 0xfcdc "\u064a\u062e \u064a\u0645 \u064a\u0647 \u0626\u0645 \u0626\u0647 \u0628\u0645",
   words 0xfce2 "\u0628\u0647 \u062a\u0645 \u062a\u0647 \u062b\u0645 \u062b\u0647 \u0633\u0645",
   words 0xfce8 "\u0633\u0647 \u0634\u0645 \u0634\u0647 \u0643\u0644 \u0643\u0645 \u0644\u0645",
   words 0xfcee "\u0646\u0645 \u0646\u0647 \u064a\u0645 \u064a\u0647 \u0640\u064e\u0651",
   words 0xfcf3 "\u0640\u064f\u0651 \u0640\u0650\u0651 \u0637\u0649 \u0637\u064a \u0639\u0649",
   words 0xfcf8 "\u0639\u064a \u063a\u0649 \u063a\u064a \u0633\u0649 \u0633\u064a \u0634\u0649",
   words 0xfcfe "\u0634\u064a \u062d\u0649 \u062d\u064a \u062c\u0649 \u062c\u064a \u062e\u0649",
   words 0xfd04 "\u062e\u064a \u0635\u0649 \u0635\u064a \u0636\u0649 \u0636\u064a \u0634\u062c",
   words 0xfd0a "\u0634\u062d \u0634\u062e \u0634\u0645 \u0634\u0631 \u0633\u0631 \u0635\u0631",
   words 0xfd10 "\u0636\u0631 \u0637\u0649 \u0637\u064a \u0639\u0649 \u0639\u064a \u063a\u0649",
   words 0xfd16 "\u063a\u064a \u0633\u0649 \u0633\u064a \u0634\u0649 \u0634\u064a \u062d\u0649",
   words 0xfd1c "\u062d\u064a \u062c\u0649 \u062c\u064a \u062e\u0649 \u062e\u064a \u0635\u0649",
   words 0xfd22 "\u0635\u064a \u0636\u0649 \u0636\u064a \u0634\u062c \u0634\u062d \u0634\u062e",
   words 0xfd28 "\u0634\u0645 \u0634\u0631 \u0633\u0631 \u0635\u0631 \u0636\u0631 \u0634\u062c",
   words 0xfd2e "\u0634\u062d \u0634\u062e \u0634\u0645 \u0633\u0647 \u0634\u0647 \u0637\u0645",
   words 0xfd34 "\u0633\u062c \u0633\u062d \u0633\u062e \u0634\u062c \u0634\u062d \u0634\u062e",
   words 0xfd3a "\u0637\u0645 \u0638\u0645 \u0627\u064b \u0627\u064b",
   words 0xfd50 "\u062a\u062c\u0645 \u062a\u062d\u062c \u062a\u062d\u062c \u062a\u062d\u0645",
   words 0xfd54 "\u062a\u062e\u0645 \u062a\u0645\u062c \u062a\u0645\u062d \u062a\u0645\u062e",
   words 0xfd58 "\u062c\u0645\u062d \u062c\u0645\u062d \u062d\u0645\u064a \u062d\u0645\u0649",
   words 0xfd5c "\u0633\u062d\u062c \u0633\u062c\u062d \u0633\u062c\u0649 \u0633\u0645\u062d",
   words 0xfd60 "\u0633\u0645\u062d \u0633\u0645\u062c \u0633\u0645\u0645 \u0633\u0645\u0645",
   words 0xfd64 "\u0635\u062d\u062d \u0635\u062d\u062d \u0635\u0645\u0645 \u0634\u062d\u0645",
   words 0xfd68 "\u0634\u062d\u0645 \u0634\u062c\u064a \u0634\u0645\u062e \u0634\u0645\u062e",
   words 0xfd6c "\u0634\u0645\u0645 \u0634\u0645\u0645 \u0636\u062d\u0649 \u0636\u062e\u0645",
   words 0xfd70 "\u0636\u062e\u0645 \u0637\u0645\u062d \u0637\u0645\u062d \u0637\u0645\u0645",
   words 0xfd74 "\u0637\u0645\u064a \u0639\u062c\u0645 \u0639\u0645\u0645 \u0639\u0645\u0645",
   words 0xfd78 "\u0639\u0645\u0649 \u063a\u0645\u0645 \u063a\u0645\u064a \u063a\u0645\u0649",
   words 0xfd7c "\u0641\u062e\u0645 \u0641\u062e\u0645 \u0642\u0645\u062d \u0642\u0645\u0645",
   words 0xfd80 "\u0644\u062d\u0645 \u0644\u062d\u064a \u0644\u062d\u0649 \u0644\u062c\u062c",
   words 0xfd84 "\u0644\u062c\u062c \u0644\u062e\u0645 \u0644\u062e\u0645 \u0644\u0645\u062d",
   words 0xfd88 "\u0644\u0645\u062d \u0645\u062d\u062c \u0645\u062d\u0645 \u0645\u062d\u064a",
   words 0xfd8c "\u0645\u062c\u062d \u0645\u062c\u0645 \u0645\u062e\u062c \u0645\u062e\u0645",
   words 0xfd92 "\u0645\u062c\u062e \u0647\u0645\u062c \u0647\u0645\u0645 \u0646\u062d\u0645",
   words 0xfd96 "\u0646\u062d\u0649 \u0646\u062c\u0645 \u0646\u062c\u0645 \u0646\u062c\u0649",
   words 0xfd9a "\u0646\u0645\u064a \u0646\u0645\u0649 \u064a\u0645\u0645 \u064a\u0645\u0645",
   words 0xfd9e "\u0628\u062e\u064a \u062a\u062c\u064a \u062a\u062c\u0649 \u062a\u062e\u064a",
   words 0xfda2 "\u062a\u062e\u0649 \u062a\u0645\u064a \u062a\u0645\u0649 \u062c\u0645\u064a",
   words 0xfda6 "\u062c\u062d\u0649 \u062c\u0645\u0649 \u0633\u062e\u0649 \u0635\u062d\u064a",
   words 0xfdaa "\u0634\u062d\u064a \u0636\u062d\u064a \u0644\u062c\u064a \u0644\u0645\u064a",
   words 0xfdae "\u064a\u062d\u064a \u064a\u062c\u064a \u064a\u0645\u064a \u0645\u0645\u064a",
   words 0xfdb2 "\u0642\u0645\u064a \u0646\u062d\u064a \u0642\u0645\u062d \u0644\u062d\u0645",
   words 0xfdb6 "\u0639\u0645\u064a \u0643\u0645\u064a \u0646\u062c\u062d \u0645\u062e\u064a",
   words 0xfdba "\u0644\u062c\u0645 \u0643\u0645\u0645 \u0644\u062c\u0645 \u0646\u062c\u062d",
   words 0xfdbe "\u062c\u062d\u064a \u062d\u062c\u064a \u0645\u062c\u064a \u0641\u0645\u064a",
   words 0xfdc2 "\u0628\u062d\u064a \u0643\u0645\u0645 \u0639\u062c\u0645 \u0635\u0645\u0645",
   words 0xfdc6 "\u0633\u062e\u064a \u0646\u062c\u064a",
   words 0xfdf0 "\u0635\u0644\u06d2 \u0642\u0644\u06d2 \u0627\u0644\u0644\u0647",
   words 0xfdf3 "\u0627\u0643\u0628\u0631 \u0645\u062d\u0645\u062f \u0635\u0644\u0639\u0645",
   words 0xfdf6 "\u0631\u0633\u0648\u0644 \u0639\u0644\u064a\u0647 \u0648\u0633\u0644\u0645",
   words 0xfdf9 "\u0635\u0644\u0649", words 0xfdfc "\u0631\u06cc\u0627\u0644", letters 0xfe10 ",、",
   letters 0xfe14 ";!", letters 0xfe17 "〖〗", letters 0xfe31 "—–__()\x7b\x7d〔〕【】《》〈〉「」『』",
   letters 0xfe4d "___,、", letters 0xfe54 ";", letters 0xfe57 "!—()\x7b\x7d〔〕",
   letters 0xfe60 "&*+-<>=", letters 0xfe69 "$", words 0xfe71 "\u0640\u064b",
   words 0xfe77 "\u0640\u064e", words 0xfe79 "\u0640\u064f", words 0xfe7b "\u0640\u0650",
   words 0xfe7d "\u0640\u0651", words 0xfe7f "\u0640\u0652",
   letters 0xfe80 "\u0621\u0622\u0622\u0623\u0623\u0624\u0624\u0625\u0625\u0626\u0626\u0626\u0626",
   letters 0xfe8d "\u0627\u0627\u0628\u0628\u0628\u0628\u0629\u0629\u062a\u062a\u062a\u062a\u062b",
   letters 0xfe9a "\u062b\u062b\u062b\u062c\u062c\u062c\u062c\u062d\u062d\u062d\u062d\u062e\u062e",
   letters 0xfea7 "\u062e\u062e\u062f\u062f\u0630\u0630\u0631\u0631\u0632\u0632\u0633\u0633\u0633",
   letters 0xfeb4 "\u0633\u0634\u0634\u0634\u0634\u0635\u0635\u0635\u0635\u0636\u0636\u0636\u0636",
   letters 0xfec1 "\u0637\u0637\u0637\u0637\u0638\u0638\u0638\u0638\u0639\u0639\u0639\u0639\u063a",
   letters 0xfece "\u063a\u063a\u063a\u0641\u0641\u0641\u0641\u0642\u0642\u0642\u0642\u0643\u0643",
   letters 0xfedb "\u0643\u0643\u0644\u0644\u0644\u0644\u0645\u0645\u0645\u0645\u0646\u0646\u0646",
   letters 0xfee8 "\u0646\u0647\u0647\u0647\u0647\u0648\u0648\u0649\u0649\u064a\u064a\u064a\u064a",
   words 0xfef5 "\u0644\u0622 \u0644\u0622 \u0644\u0623 \u0644\u0623 \u0644\u0625 \u0644\u0625",
   words 0xfefb "\u0644\u0627 \u0644\u0627", letters 0xff01 "!\"", letters 0xff04 "$",
   letters 0xff06 "&'()*+,-.", letters 0xff10 "0123456789", letters 0xff1b ";<=>",
   letters 0xff21 "abcdefghijklmnopqrstuvwxyz", letters 0xff3f "_`abcdefghijklmnopqrstuvwxyz\x7b",
   letters 0xff5d "\x7d~⦅⦆.「」、・ヲァィゥェォャュョッーアイウエオカキクケコサシスセソタチツテトナニヌネノハヒフヘホマミムメモヤユヨラリルレロワン\u3099",
   letters 0xff9f "\u309a", letters 0xffa1 "ᄀᄁᆪᄂᆬᆭᄃᄄᄅᆰᆱᆲᆳᆴᆵᄚᄆᄇᄈᄡᄉᄊᄋᄌᄍᄎᄏᄐᄑᄒ",
   letters 0xffc2 "ᅡᅢᅣᅤᅥᅦ", letters 0xffca "ᅧᅨᅩᅪᅫᅬ", letters 0xffd2 "ᅭᅮᅯᅰᅱᅲ", letters 0xffda "ᅳᅴᅵ",
   letters 0xffe0 "¢£¬", letters 0xffe4 "¦¥₩", letters 0xffe8 "│←↑→↓■○", letters 0x10781 "ːˑæʙɓ",
   letters 0x10787 "ʣꭦʥʤɖɗᶑɘɞʩɤɢɠʛħʜɧʄʪʫɬ𝼄ꞎɮ𝼅ʎ𝼆øɶɷqɺ𝼈ɽɾʀʨʦꭧʧʈⱱ", letters 0x107b2 "ʏʡʢʘǀǁǂ𝼊𝼞",
   letters 0x1ccd6 "abcdefghijklmnopqrstuvwxyz0123456789",
   words 0x1d15e "𝅗𝅥 𝅘𝅥 𝅘𝅥𝅮 𝅘𝅥𝅯 𝅘𝅥𝅰 𝅘𝅥𝅱 𝅘𝅥𝅲", words 0x1d1bb "𝆹𝅥 𝆺𝅥 𝆹𝅥𝅮 𝆺𝅥𝅮 𝆹𝅥𝅯 𝆺𝅥𝅯",
   cycle 0x1d400 0x1d6a3 "abcdefghijklmnopqrstuvwxyz", letters 0x1d6a4 "ıȷ",
   cycle 0x1d6a8 0x1d7c9 "αβγδεζηθικλμνξοπρθστυφχψω∇αβγδεζηθικλμνξοπρσστυφχψω∂εθκφρπ",
   letters 0x1d7ca "ϝϝ", cycle 0x1d7ce 0x1d7ff "0123456789",
   letters 0x1e030 "абвгдежзиклмопрстуфхцчшыэюꚉәіјөүӏабвгдежзиклопсуфхцчшъыґіѕџҫꙑұ",
   letters 0x1ee00 "\u0627\u0628\u062c\u062f",
   letters 0x1ee05 "\u0648\u0632\u062d\u0637\u064a\u0643\u0644\u0645\u0646\u0633\u0639\u0641\u0635",
   letters 0x1ee12 "\u0642\u0631\u0634\u062a\u062b\u062e\u0630\u0636\u0638\u063a\u066e\u06ba\u06a1",
   letters 0x1ee1f "\u066f", letters 0x1ee21 "\u0628\u062c", letters 0x1ee24 "\u0647",
   letters 0x1ee27 "\u062d",
   letters 0x1ee29 "\u064a\u0643\u0644\u0645\u0646\u0633\u0639\u0641\u0635\u0642",
   letters 0x1ee34 "\u0634\u062a\u062b\u062e", letters 0x1ee39 "\u0636", letters 0x1ee3b "\u063a",
   letters 0x1ee42 "\u062c", letters 0x1ee47 "\u062d", letters 0x1ee49 "\u064a",
   letters 0x1ee4b "\u0644", letters 0x1ee4d "\u0646\u0633\u0639", letters 0x1ee51 "\u0635\u0642",
   letters 0x1ee54 "\u0634", letters 0x1ee57 "\u062e", letters 0x1ee59 "\u0636",
   letters 0x1ee5b "\u063a", letters 0x1ee5d "\u06ba", letters 0x1ee5f "\u066f",
   letters 0x1ee61 "\u0628\u062c", letters 0x1ee64 "\u0647",
   letters 0x1ee67 "\u062d\u0637\u064a\u0643",
   letters 0x1ee6c "\u0645\u0646\u0633\u0639\u0641\u0635\u0642",
   letters 0x1ee74 "\u0634\u062a\u062b\u062e", letters 0x1ee79 "\u0636\u0638\u063a\u066e",
   letters 0x1ee7e "\u06a1",
   letters 0x1ee80 "\u0627\u0628\u062c\u062f\u0647\u0648\u0632\u062d\u0637\u064a",
   letters 0x1ee8b "\u0644\u0645\u0646\u0633\u0639\u0641\u0635\u0642\u0631\u0634\u062a\u062b\u062e",
   letters 0x1ee98 "\u0630\u0636\u0638\u063a", letters 0x1eea1 "\u0628\u062c\u062f",
   letters 0x1eea5 "\u0648\u0632\u062d\u0637\u064a",
   letters 0x1eeab "\u0644\u0645\u0646\u0633\u0639\u0641\u0635\u0642\u0631\u0634\u062a\u062b\u062e",
   letters 0x1eeb8 "\u0630\u0636\u0638\u063a", words 0x1f101 "0, 1, 2, 3, 4, 5, 6, 7, 8, 9,",
   words 0x1f110 "(a) (b) (c) (d) (e) (f) (g) (h) (i) (j) (k) (l) (m) (n) (o) (p) (q) (r) (s) (t)",
   words 0x1f124 "(u) (v) (w) (x) (y) (z) 〔s〕 c r cd wz",
   letters 0x1f130 "abcdefghijklmnopqrstuvwxyz", words 0x1f14a "hv mv sd ss ppv wc",
   words 0x1f16a "mc md mr", words 0x1f190 "dj", words 0x1f200 "ほか ココ サ",
   letters 0x1f210 "手字双デ二多解天交映無料前後再新初終生販声吹演投捕一三遊左中右指走打禁空合満有月申割営配",
   words 0x1f240 "〔本〕 〔三〕 〔二〕 〔安〕 〔点〕 〔打〕 〔盗〕 〔勝〕 〔敗〕", letters 0x1f250 "得可",
   letters 0x1fbf0 "0123456789",
   letters 0x2f800 "丽丸乁𠄢你侮侻倂偺備僧像㒞𠘺免兔兤具𠔜㒹內再𠕋冗冤仌冬况𩇟凵刃㓟刻剆割剷㔕勇勉勤勺包匆北卉卑博即卽卿卿卿𠨬灰及叟𠭣叫叱吆咞吸呈周咢哶唐啓啣善善喙喫喳嗂圖嘆圗",
   letters 0x2f84e "噑噴切壮城埴堍型堲報墬𡓤売壷夆多夢奢𡚨𡛪姬娛娧姘婦㛮㛼嬈嬾嬾𡧈寃寘寧寳𡬘寿将当尢㞁屠屮峀岍𡷤嵃𡷦嵮嵫嵼巡巢㠯巽帨帽幩㡢𢆃㡼庰庳庶廊𪎒廾𢌱𢌱舁弢弢㣇𣊸𦇚形彫㣣",
   letters 0x2f89c "徚忍志忹悁㤺㤜悔𢛔惇慈慌慎慌慺憎憲憤憯懞懲懶成戛扝抱拔捐𢬌挽拼捨掃揤𢯱搢揅掩㨮摩摾撝摷㩬敏敬𣀊旣書晉㬙暑㬈㫤冒冕最暜肭䏙朗望朡杞杓𣏃㭉柺枅桒梅𣑭梎栟椔㮝楂榣",
   letters 0x2f8ea "槪檨𣚣櫛㰘次𣢧歔㱎歲殟殺殻𣪍𡴋𣫺汎𣲼沿泍汧洖派海流浩浸涅𣴞洴港湮㴳滋滇𣻑淹潮𣽞𣾎濆瀹瀞瀛㶖灊災灷炭𠔥煅𤉣熜𤎫爨爵牐𤘈犀犕𤜵𤠔獺王㺬玥㺸㺸瑇瑜瑱璅瓊㼛甤𤰶甾𤲒",
   letters 0x2f938 "異𢆟瘐𤾡𤾸𥁄㿼䀈直𥃳𥃲𥄙𥄳眞真真睊䀹瞋䁆䂖𥐝硎碌磌䃣𥘦祖𥚚𥛅福秫䄯穀穊穏𥥼𥪧𥪧竮䈂𥮫篆築䈧𥲀糒䊠糨糣紀𥾆絣䌁緇縂繅䌴𦈨𦉇䍙𦋙罺𦌾羕翺者𦓚𦔣聠𦖨聰𣍟䏕育脃䐋脾",
   letters 0x2f986 "媵𦞧𦞵𣎓𣎜舁舄辞䑫芑芋芝劳花芳芽苦𦬼若茝荣莭茣莽菧著荓菊菌菜𦰶𦵫𦳕䔫蓱蓳蔖𧏊蕤𦼬䕝䕡𦾱𧃒䕫虐虜虧虩蚩蚈蜎蛢蝹蜨蝫螆䗗蟡蠁䗹衠衣𧙧裗裞䘵裺㒻𧢮𧥦䚾䛇誠諭變豕𧲨",
   letters 0x2f9d4 "貫賁贛起𧼯𠠄跋趼跰𠣞軔輸𨗒𨗭邔郱鄑𨜮鄛鈸鋗鋘鉼鏹鐕𨯺開䦕閷𨵷䧦雃嶲霣𩅅𩈚䩮䩶韠𩐊䪲𩒖頋頋頩𩖶飢䬳餩馧駂駾䯎𩬰鬒鱀鳽䳎䳭鵧𪃎䳸𪄅𪈎𪊑麻䵖黹黾鼅鼏鼖鼻𪘀"]

/-- What a character is a form of. -/
def form? (c : Char) : Option (List Char) :=
  (formRuns.find? fun r => r.first ≤ c.toNat && c.toNat ≤ r.last).bind fun r =>
    r.forms[(c.toNat - r.first) % r.forms.size]?

end Catalog.Text
