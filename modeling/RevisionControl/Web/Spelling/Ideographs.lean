/-!
# Ideographs

Signs of the East Asian scripts that stand for others: variants of ideographs, their radicals,
letters of half the width and letters in circles and squares.

The table follows version 18 of the mapping that Unicode gives for domain names.
-/

namespace RevisionControl.Web.Spelling

/-- Runs of such characters: the number of the first, and what each of them stands for. -/
def ideographs : List (Nat × List String) :=
  [(0x2e9f, ["母"]), (0x2ef3, ["龟"]),
   (0x2f00, ["一", "丨", "丶", "丿", "乙", "亅", "二", "亠", "人", "儿", "入", "八", "冂", "冖", "冫", "几", "凵",
      "刀", "力", "勹", "匕", "匚", "匸", "十", "卜", "卩", "厂", "厶", "又", "口", "囗", "土", "士", "夂", "夊", "夕",
      "大", "女", "子", "宀", "寸", "小", "尢", "尸", "屮", "山", "巛", "工", "己", "巾", "干", "幺", "广", "廴", "廾",
      "弋", "弓", "彐", "彡", "彳", "心", "戈", "戶", "手", "支", "攴", "文", "斗", "斤", "方", "无", "日", "曰", "月",
      "木", "欠", "止", "歹", "殳", "毋", "比", "毛", "氏", "气", "水", "火", "爪", "父", "爻", "爿", "片", "牙", "牛",
      "犬", "玄", "玉", "瓜", "瓦", "甘", "生", "用", "田", "疋", "疒", "癶", "白", "皮", "皿", "目", "矛", "矢", "石",
      "示", "禸", "禾", "穴", "立", "竹", "米", "糸", "缶", "网", "羊", "羽", "老", "而", "耒", "耳", "聿", "肉", "臣",
      "自", "至", "臼", "舌", "舛", "舟", "艮", "色", "艸", "虍", "虫", "血", "行", "衣", "襾", "見", "角", "言", "谷",
      "豆", "豕", "豸", "貝", "赤", "走", "足", "身", "車", "辛", "辰", "辵", "邑", "酉", "釆", "里", "金", "長", "門",
      "阜", "隶", "隹", "雨", "靑", "非", "面", "革", "韋", "韭", "音", "頁", "風", "飛", "食", "首", "香", "馬", "骨",
      "高", "髟", "鬥", "鬯", "鬲", "鬼", "魚", "鳥", "鹵", "鹿", "麥", "麻", "黃", "黍", "黑", "黹", "黽", "鼎", "鼓",
      "鼠", "鼻", "齊", "齒", "龍", "龜", "龠"]),
   (0x3002, ["."]), (0x3036, ["〒"]), (0x3038, ["十", "卄", "卅"]), (0x309f, ["より"]), (0x30ff, ["コト"]),
   (0x3131, ["ᄀ", "ᄁ", "ᆪ", "ᄂ", "ᆬ", "ᆭ", "ᄃ", "ᄄ", "ᄅ"]), (0x3140, ["ᄚ", "ᄆ", "ᄇ", "ᄈ", "ᄡ"]),
   (0x3165, ["ᄔ", "ᄕ", "ᇇ", "ᇈ", "ᇌ", "ᇎ", "ᇓ", "ᇗ", "ᇙ", "ᄜ", "ᇝ", "ᇟ", "ᄝ", "ᄞ", "ᄠ", "ᄢ", "ᄣ",
      "ᄧ", "ᄩ"]),
   (0x317d, ["ᄲ", "ᄶ", "ᅀ", "ᅇ", "ᅌ", "ᇱ", "ᇲ", "ᅗ", "ᅘ", "ᅙ", "ᆄ", "ᆅ", "ᆈ", "ᆑ", "ᆒ", "ᆔ", "ᆞ",
      "ᆡ"]),
   (0x3192, ["一", "二", "三", "四", "上", "中", "下", "甲", "乙", "丙", "丁", "天", "地", "人"]),
   (0x3200, ["(ᄀ)", "(ᄂ)", "(ᄃ)", "(ᄅ)", "(ᄆ)", "(ᄇ)", "(ᄉ)", "(ᄋ)", "(ᄌ)", "(ᄎ)", "(ᄏ)", "(ᄐ)",
      "(ᄑ)", "(ᄒ)", "(가)", "(나)", "(다)", "(라)", "(마)", "(바)", "(사)", "(아)", "(자)", "(차)", "(카)",
      "(타)", "(파)", "(하)", "(주)", "(오전)", "(오후)"]),
   (0x3220, ["(一)", "(二)", "(三)", "(四)", "(五)", "(六)", "(七)", "(八)", "(九)", "(十)", "(月)", "(火)",
      "(水)", "(木)", "(金)", "(土)", "(日)", "(株)", "(有)", "(社)", "(名)", "(特)", "(財)", "(祝)", "(労)",
      "(代)", "(呼)", "(学)", "(監)", "(企)", "(資)", "(協)", "(祭)", "(休)", "(自)", "(至)", "問", "幼", "文",
      "箏"]),
   (0x3250, ["pte", "21", "22", "23", "24", "25", "26", "27", "28", "29", "30", "31", "32", "33",
      "34", "35", "ᄀ", "ᄂ", "ᄃ", "ᄅ", "ᄆ", "ᄇ", "ᄉ", "ᄋ", "ᄌ"]),
   (0x326e, ["가", "나", "다", "라", "마", "바", "사", "아", "자", "차", "카", "타", "파", "하", "참고", "주의",
      "우"]),
   (0x3280, ["一", "二", "三", "四", "五", "六", "七", "八", "九", "十", "月", "火", "水", "木", "金", "土", "日",
      "株", "有", "社", "名", "特", "財", "祝", "労", "秘", "男", "女", "適", "優", "印", "注", "項", "休", "写", "正",
      "上", "中", "下", "左", "右", "医", "宗", "学", "監", "企", "資", "協", "夜", "36", "37", "38", "39", "40",
      "41", "42", "43", "44", "45", "46", "47", "48", "49", "50", "1月", "2月", "3月", "4月", "5月",
      "6月", "7月", "8月", "9月", "10月", "11月", "12月", "hg", "erg", "ev", "ltd", "ア", "イ", "ウ", "エ",
      "オ", "カ", "キ", "ク", "ケ", "コ", "サ", "シ", "ス", "セ", "ソ", "タ", "チ", "ツ", "テ", "ト"]),
   (0x32ea, ["ヒ", "フ", "ヘ", "ホ"]), (0x32f3, ["ヤ", "ユ"]),
   (0x32ff, ["令和", "アパート", "アルファ", "アンペア", "アール", "イニング", "インチ", "ウォン", "エスクード", "エーカー", "オンス",
      "オーム", "カイリ", "カラット", "カロリー", "ガロン", "ガンマ", "ギガ", "ギニー", "キュリー", "ギルダー", "キロ", "キログラム",
      "キロメートル", "キロワット", "グラム", "グラムトン", "クルゼイロ", "クローネ", "ケース", "コルナ", "コーポ", "サイクル", "サンチーム",
      "シリング", "センチ", "セント", "ダース", "デシ", "ドル", "トン", "ナノ", "ノット", "ハイツ", "パーセント", "パーツ", "バーレル",
      "ピアストル", "ピクル", "ピコ", "ビル", "ファラッド", "フィート", "ブッシェル", "フラン", "ヘクタール", "ペソ", "ペニヒ", "ヘルツ",
      "ペンス", "ページ", "ベータ", "ポイント", "ボルト", "ホン", "ポンド", "ホール", "ホーン", "マイクロ", "マイル", "マッハ", "マルク",
      "マンション", "ミクロン", "ミリ", "ミリバール", "メガ", "メガトン", "メートル", "ヤード", "ヤール", "ユアン", "リットル", "リラ",
      "ルピー", "ルーブル", "レム", "レントゲン", "ワット", "0点", "1点", "2点", "3点", "4点", "5点", "6点", "7点", "8点",
      "9点", "10点", "11点", "12点", "13点", "14点", "15点", "16点", "17点", "18点", "19点", "20点", "21点",
      "22点", "23点", "24点", "hpa", "da", "au", "bar", "ov", "pc", "dm", "dm2", "dm3", "iu", "平成",
      "昭和", "大正", "明治", "株式会社", "pa", "na", "μa", "ma", "ka", "kb", "mb", "gb", "cal", "kcal", "pf",
      "nf", "μf", "μg", "mg", "kg", "hz", "khz", "mhz", "ghz", "thz", "μl", "ml", "dl", "kl", "fm",
      "nm", "μm", "mm", "cm", "km", "mm2", "cm2", "m2", "km2", "mm3", "cm3", "m3", "km3", "m∕s",
      "m∕s2", "pa", "kpa", "mpa", "gpa", "rad", "rad∕s", "rad∕s2", "ps", "ns", "μs", "ms", "pv",
      "nv", "μv", "mv", "kv", "mv", "pw", "nw", "μw", "mw", "kw", "mw", "kω", "mω"]),
   (0x33c3, ["bq", "cc", "cd", "c∕kg"]),
   (0x33c8, ["db", "gy", "ha", "hp", "in", "kk", "km", "kt", "lm", "ln", "log", "lx", "mb", "mil",
      "mol", "ph"]),
   (0x33d9, ["ppm", "pr", "sr", "sv", "wb", "v∕m", "a∕m", "1日", "2日", "3日", "4日", "5日", "6日", "7日",
      "8日", "9日", "10日", "11日", "12日", "13日", "14日", "15日", "16日", "17日", "18日", "19日", "20日",
      "21日", "22日", "23日", "24日", "25日", "26日", "27日", "28日", "29日", "30日", "31日", "gal"]),
   (0xf900, ["豈", "更", "車", "賈", "滑", "串", "句", "龜", "龜", "契", "金", "喇", "奈", "懶", "癩", "羅", "蘿",
      "螺", "裸", "邏", "樂", "洛", "烙", "珞", "落", "酪", "駱", "亂", "卵", "欄", "爛", "蘭", "鸞", "嵐", "濫", "藍",
      "襤", "拉", "臘", "蠟", "廊", "朗", "浪", "狼", "郎", "來", "冷", "勞", "擄", "櫓", "爐", "盧", "老", "蘆", "虜",
      "路", "露", "魯", "鷺", "碌", "祿", "綠", "菉", "錄", "鹿", "論", "壟", "弄", "籠", "聾", "牢", "磊", "賂", "雷",
      "壘", "屢", "樓", "淚", "漏", "累", "縷", "陋", "勒", "肋", "凜", "凌", "稜", "綾", "菱", "陵", "讀", "拏", "樂",
      "諾", "丹", "寧", "怒", "率", "異", "北", "磻", "便", "復", "不", "泌", "數", "索", "參", "塞", "省", "葉", "說",
      "殺", "辰", "沈", "拾", "若", "掠", "略", "亮", "兩", "凉", "梁", "糧", "良", "諒", "量", "勵", "呂", "女", "廬",
      "旅", "濾", "礪", "閭", "驪", "麗", "黎", "力", "曆", "歷", "轢", "年", "憐", "戀", "撚", "漣", "煉", "璉", "秊",
      "練", "聯", "輦", "蓮", "連", "鍊", "列", "劣", "咽", "烈", "裂", "說", "廉", "念", "捻", "殮", "簾", "獵", "令",
      "囹", "寧", "嶺", "怜", "玲", "瑩", "羚", "聆", "鈴", "零", "靈", "領", "例", "禮", "醴", "隸", "惡", "了", "僚",
      "寮", "尿", "料", "樂", "燎", "療", "蓼", "遼", "龍", "暈", "阮", "劉", "杻", "柳", "流", "溜", "琉", "留", "硫",
      "紐", "類", "六", "戮", "陸", "倫", "崙", "淪", "輪", "律", "慄", "栗", "率", "隆", "利", "吏", "履", "易", "李",
      "梨", "泥", "理", "痢", "罹", "裏", "裡", "里", "離", "匿", "溺", "吝", "燐", "璘", "藺", "隣", "鱗", "麟", "林",
      "淋", "臨", "立", "笠", "粒", "狀", "炙", "識", "什", "茶", "刺", "切", "度", "拓", "糖", "宅", "洞", "暴", "輻",
      "行", "降", "見", "廓", "兀", "嗀"]),
   (0xfa10, ["塚"]), (0xfa12, ["晴"]), (0xfa15, ["凞", "猪", "益", "礼", "神", "祥", "福", "靖", "精", "羽"]),
   (0xfa20, ["蘒"]), (0xfa22, ["諸"]), (0xfa25, ["逸", "都"]),
   (0xfa2a, ["飯", "飼", "館", "鶴", "郞", "隷", "侮", "僧", "免", "勉", "勤", "卑", "喝", "嘆", "器", "塀", "墨",
      "層", "屮", "悔", "慨", "憎", "懲", "敏", "既", "暑", "梅", "海", "渚", "漢", "煮", "爫", "琢", "碑", "社", "祉",
      "祈", "祐", "祖", "祝", "禍", "禎", "穀", "突", "節", "練", "縉", "繁", "署", "者", "臭", "艹", "艹", "著", "褐",
      "視", "謁", "謹", "賓", "贈", "辶", "逸", "難", "響", "頻", "恵", "𤋮", "舘"]),
   (0xfa70, ["並", "况", "全", "侀", "充", "冀", "勇", "勺", "喝", "啕", "喙", "嗢", "塚", "墳", "奄", "奔", "婢",
      "嬨", "廒", "廙", "彩", "徭", "惘", "慎", "愈", "憎", "慠", "懲", "戴", "揄", "搜", "摒", "敖", "晴", "朗", "望",
      "杖", "歹", "殺", "流", "滛", "滋", "漢", "瀞", "煮", "瞧", "爵", "犯", "猪", "瑱", "甆", "画", "瘝", "瘟", "益",
      "盛", "直", "睊", "着", "磌", "窱", "節", "类", "絛", "練", "缾", "者", "荒", "華", "蝹", "襁", "覆", "視", "調",
      "諸", "請", "謁", "諾", "諭", "謹", "變", "贈", "輸", "遲", "醙", "鉶", "陼", "難", "靖", "韛", "響", "頋", "頻",
      "鬒", "龜", "𢡊", "𢡄", "𣏕", "㮝", "䀘", "䀹", "𥉉", "𥳐", "𧻓", "齃", "龎"]),
   (0xfe31, ["—", "–", "_", "_", "(", ")", "\x7b", "\x7d", "〔", "〕", "【", "】", "《", "》", "〈", "〉"]),
   (0xfe4d, ["_", "_", "_"]),
   (0xff5f, ["⦅", "⦆", ".", "「", "」", "、", "・", "ヲ", "ァ", "ィ", "ゥ", "ェ", "ォ", "ャ", "ュ", "ョ", "ッ",
      "ー", "ア", "イ", "ウ", "エ", "オ", "カ", "キ", "ク", "ケ", "コ", "サ", "シ", "ス", "セ", "ソ", "タ", "チ", "ツ",
      "テ", "ト"]),
   (0xff8b, ["ヒ", "フ", "ヘ", "ホ"]), (0xff94, ["ヤ", "ユ"]), (0xff9c, ["ワ", "ン", "\u3099", "\u309a"]),
   (0xffa1, ["ᄀ", "ᄁ", "ᆪ", "ᄂ", "ᆬ", "ᆭ", "ᄃ", "ᄄ", "ᄅ"]), (0xffb0, ["ᄚ", "ᄆ", "ᄇ", "ᄈ", "ᄡ"]),
   (0xffda, ["ᅳ", "ᅴ", "ᅵ"]), (0xffe0, ["¢", "£", "¬"]), (0xffe4, ["¦", "¥", "₩"]),
   (0xffe8, ["│"]), (0xffed, ["■", "○"]), (0x1f200, ["ほか", "ココ", "サ"]),
   (0x1f210, ["手", "字", "双", "デ", "二", "多", "解", "天", "交", "映", "無", "料", "前", "後", "再", "新", "初",
      "終", "生", "販", "声", "吹", "演", "投", "捕", "一", "三", "遊", "左", "中", "右", "指", "走", "打", "禁", "空",
      "合", "満", "有", "月", "申", "割", "営", "配"]),
   (0x1f240, ["〔本〕", "〔三〕", "〔二〕", "〔安〕", "〔点〕", "〔打〕", "〔盗〕", "〔勝〕", "〔敗〕"]),
   (0x1f250, ["得", "可"]),
   (0x2f800, ["丽", "丸", "乁", "𠄢", "你", "侮", "侻", "倂", "偺", "備", "僧", "像", "㒞", "𠘺", "免", "兔", "兤",
      "具", "𠔜", "㒹", "內", "再", "𠕋", "冗", "冤", "仌", "冬", "况", "𩇟", "凵", "刃", "㓟", "刻", "剆", "割", "剷",
      "㔕", "勇", "勉", "勤", "勺", "包", "匆", "北", "卉", "卑", "博", "即", "卽", "卿", "卿", "卿", "𠨬", "灰", "及",
      "叟", "𠭣", "叫", "叱", "吆", "咞", "吸", "呈", "周", "咢", "哶", "唐", "啓", "啣", "善", "善", "喙", "喫", "喳",
      "嗂", "圖", "嘆", "圗", "噑", "噴", "切", "壮", "城", "埴", "堍", "型", "堲", "報", "墬", "𡓤", "売", "壷", "夆",
      "多", "夢", "奢", "𡚨", "𡛪", "姬", "娛", "娧", "姘", "婦", "㛮", "㛼", "嬈", "嬾", "嬾", "𡧈", "寃", "寘", "寧",
      "寳", "𡬘", "寿", "将", "当", "尢", "㞁", "屠", "屮", "峀", "岍", "𡷤", "嵃", "𡷦", "嵮", "嵫", "嵼", "巡", "巢",
      "㠯", "巽", "帨", "帽", "幩", "㡢", "𢆃", "㡼", "庰", "庳", "庶", "廊", "𪎒", "廾", "𢌱", "𢌱", "舁", "弢", "弢",
      "㣇", "𣊸", "𦇚", "形", "彫", "㣣", "徚", "忍", "志", "忹", "悁", "㤺", "㤜", "悔", "𢛔", "惇", "慈", "慌", "慎",
      "慌", "慺", "憎", "憲", "憤", "憯", "懞", "懲", "懶", "成", "戛", "扝", "抱", "拔", "捐", "𢬌", "挽", "拼", "捨",
      "掃", "揤", "𢯱", "搢", "揅", "掩", "㨮", "摩", "摾", "撝", "摷", "㩬", "敏", "敬", "𣀊", "旣", "書", "晉", "㬙",
      "暑", "㬈", "㫤", "冒", "冕", "最", "暜", "肭", "䏙", "朗", "望", "朡", "杞", "杓", "𣏃", "㭉", "柺", "枅", "桒",
      "梅", "𣑭", "梎", "栟", "椔", "㮝", "楂", "榣", "槪", "檨", "𣚣", "櫛", "㰘", "次", "𣢧", "歔", "㱎", "歲", "殟",
      "殺", "殻", "𣪍", "𡴋", "𣫺", "汎", "𣲼", "沿", "泍", "汧", "洖", "派", "海", "流", "浩", "浸", "涅", "𣴞", "洴",
      "港", "湮", "㴳", "滋", "滇", "𣻑", "淹", "潮", "𣽞", "𣾎", "濆", "瀹", "瀞", "瀛", "㶖", "灊", "災", "灷", "炭",
      "𠔥", "煅", "𤉣", "熜", "𤎫", "爨", "爵", "牐", "𤘈", "犀", "犕", "𤜵", "𤠔", "獺", "王", "㺬", "玥", "㺸", "㺸",
      "瑇", "瑜", "瑱", "璅", "瓊", "㼛", "甤", "𤰶", "甾", "𤲒", "異", "𢆟", "瘐", "𤾡", "𤾸", "𥁄", "㿼", "䀈", "直",
      "𥃳", "𥃲", "𥄙", "𥄳", "眞", "真", "真", "睊", "䀹", "瞋", "䁆", "䂖", "𥐝", "硎", "碌", "磌", "䃣", "𥘦", "祖",
      "𥚚", "𥛅", "福", "秫", "䄯", "穀", "穊", "穏", "𥥼", "𥪧", "𥪧", "竮", "䈂", "𥮫", "篆", "築", "䈧", "𥲀", "糒",
      "䊠", "糨", "糣", "紀", "𥾆", "絣", "䌁", "緇", "縂", "繅", "䌴", "𦈨", "𦉇", "䍙", "𦋙", "罺", "𦌾", "羕", "翺",
      "者", "𦓚", "𦔣", "聠", "𦖨", "聰", "𣍟", "䏕", "育", "脃", "䐋", "脾", "媵", "𦞧", "𦞵", "𣎓", "𣎜", "舁", "舄",
      "辞", "䑫", "芑", "芋", "芝", "劳", "花", "芳", "芽", "苦", "𦬼", "若", "茝", "荣", "莭", "茣", "莽", "菧", "著",
      "荓", "菊", "菌", "菜", "𦰶", "𦵫", "𦳕", "䔫", "蓱", "蓳", "蔖", "𧏊", "蕤", "𦼬", "䕝", "䕡", "𦾱", "𧃒", "䕫",
      "虐", "虜", "虧", "虩", "蚩", "蚈", "蜎", "蛢", "蝹", "蜨", "蝫", "螆", "䗗", "蟡", "蠁", "䗹", "衠", "衣", "𧙧",
      "裗", "裞", "䘵", "裺", "㒻", "𧢮", "𧥦", "䚾", "䛇", "誠", "諭", "變", "豕", "𧲨", "貫", "賁", "贛", "起", "𧼯",
      "𠠄", "跋", "趼", "跰", "𠣞", "軔", "輸", "𨗒", "𨗭", "邔", "郱", "鄑", "𨜮", "鄛", "鈸", "鋗", "鋘", "鉼", "鏹",
      "鐕", "𨯺", "開", "䦕", "閷", "𨵷", "䧦", "雃", "嶲", "霣", "𩅅", "𩈚", "䩮", "䩶", "韠", "𩐊", "䪲", "𩒖", "頋",
      "頋", "頩", "𩖶", "飢", "䬳", "餩", "馧", "駂", "駾", "䯎", "𩬰", "鬒", "鱀", "鳽", "䳎", "䳭", "鵧", "𪃎", "䳸",
      "𪄅", "𪈎", "𪊑", "麻", "䵖", "黹", "黾", "鼅", "鼏", "鼖", "鼻", "𪘀"])]

end RevisionControl.Web.Spelling
