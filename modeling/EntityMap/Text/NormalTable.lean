/-!
# Tables of the normal form

How the characters of names are brought to one form: characters that are another way to write
one character (`singleForms`) or several (`severalForms`), letters with a mark that are written as
one character (`markedLetters`), and the classes by which marks on one letter are ordered
(`markClasses`).
-/

namespace EntityMap.Text

/-- Runs of characters that each stand for another one: the code point of the first, and what the
characters from there on stand for. -/
def singleForms : List (Nat × String) := [
    (0xaa, "a"), (0xb5, "μ"), (0xba, "o"), (0x17f, "s"), (0x2b0, "hɦjrɹɻʁwy"), (0x2e0, "ɣlsxʕ"),
    (0x340, "̀́"), (0x343, "̓"), (0x374, "ʹ"), (0x387, "·"), (0x3d0, "βθΥ"), (0x3d5, "φπ"),
    (0x3f0, "κρς"), (0x3f4, "Θε"), (0x3f9, "Σ"), (0x10fc, "ნ"), (0x1d2c, "AÆB"),
    (0x1d30, "DEƎGHIJKLMN"), (0x1d3c, "OȢPRTUWaɐɑᴂbdeəɛɜg"),
    (0x1d4f, "kmŋoɔᴖᴗptuᴝɯvᴥβγδφχiruvβγρφχ"), (0x1d78, "н"),
    (0x1d9b, "ɒcɕðɜfɟɡɥɨɩɪᵻʝɭᶅʟɱɰɲɳɴɵɸʂʃƫʉʊᴜʋʌzʐʑʒθ"), (0x1f71, "ά"), (0x1f73, "έ"),
    (0x1f75, "ή"), (0x1f77, "ί"), (0x1f79, "ό"), (0x1f7b, "ύ"), (0x1f7d, "ώ"), (0x1fbb, "Ά"),
    (0x1fbe, "ι"), (0x1fc9, "Έ"), (0x1fcb, "Ή"), (0x1fd3, "ΐ"), (0x1fdb, "Ί"), (0x1fe3, "ΰ"),
    (0x1feb, "Ύ"), (0x1ff9, "Ό"), (0x1ffb, "Ώ"), (0x2071, "i"), (0x207f, "n"),
    (0x2090, "aeoxəhklmnpst"), (0x2102, "C"), (0x2107, "Ɛ"), (0x210a, "gHHHhħIILl"),
    (0x2115, "N"), (0x2119, "PQRRR"), (0x2124, "Z"), (0x2126, "Ω"), (0x2128, "Z"),
    (0x212a, "KÅBC"), (0x212f, "eEF"), (0x2133, "Moאבגדi"), (0x213c, "πγΓΠ"), (0x2145, "Ddeij"),
    (0x2160, "I"), (0x2164, "V"), (0x2169, "X"), (0x216c, "LCDMi"), (0x2174, "v"), (0x2179, "x"),
    (0x217c, "lcdm"), (0x2c7c, "jV"), (0x2d6f, "ⵡ"), (0x3038, "十卄卅"),
    (0x3131, "ᄀᄁᆪᄂᆬᆭᄃᄄᄅᆰᆱᆲᆳᆴᆵᄚᄆᄇᄈᄡᄉᄊᄋᄌᄍᄎᄏᄐᄑ하ᅢᅣᅤᅥᅦᅧᅨᅩᅪᅫᅬᅭᅮᅯᅰᅱᅲᅳᅴᅵᅠᄔᄕᇇᇈᇌᇎᇓᇗ"),
    (0x316d, "ᇙᄜᇝᇟᄝᄞᄠᄢᄣᄧᄩᄫᄬᄭᄮᄯᄲᄶᅀᅇᅌᇱᇲᅗᅘᅙᆄᆅᆈᆑᆒᆔᆞᆡ"), (0xa69c, "ъь"), (0xa770, "ꝯ"),
    (0xa7f2, "CFQ"), (0xa7f8, "Ħœ"), (0xab5c, "ꜧꬷɫꭒ"), (0xab69, "ʍ"),
    (0xf900, "豈更車賈滑串句龜龜契金喇奈懶癩羅蘿螺裸邏樂洛烙珞落酪駱亂卵欄爛蘭鸞嵐濫藍襤拉臘蠟廊朗浪狼郎來冷勞擄櫓爐盧老蘆虜路露魯鷺碌"),
    (0xf93c, "祿綠菉錄鹿論壟弄籠聾牢磊賂雷壘屢樓淚漏累縷陋勒肋凜凌稜綾菱陵讀拏樂諾丹寧怒率異北磻便復不泌數索參塞省葉說殺辰沈拾若掠略亮"),
    (0xf978, "兩凉梁糧良諒量勵呂女廬旅濾礪閭驪麗黎力曆歷轢年憐戀撚漣煉璉秊練聯輦蓮連鍊列劣咽烈裂說廉念捻殮簾獵令囹寧嶺怜玲瑩羚聆鈴零靈"),
    (0xf9b4, "領例禮醴隸惡了僚寮尿料樂燎療蓼遼龍暈阮劉杻柳流溜琉留硫紐類六戮陸倫崙淪輪律慄栗率隆利吏履易李梨泥理痢罹裏裡里離匿溺吝燐璘"),
    (0xf9f0, "藺隣鱗麟林淋臨立笠粒狀炙識什茶刺切度拓糖宅洞暴輻行降見廓兀嗀"), (0xfa10, "塚"), (0xfa12, "晴"),
    (0xfa15, "凞猪益礼神祥福靖精羽"), (0xfa20, "蘒"), (0xfa22, "諸"), (0xfa25, "逸都"),
    (0xfa2a, "飯飼館鶴郞隷侮僧免勉勤卑喝嘆器塀墨層屮悔慨憎懲敏既暑梅海渚漢煮爫琢碑社祉祈祐祖祝禍禎穀突節練縉繁署者臭艹艹著褐視謁謹賓贈"),
    (0xfa66, "辶逸難響頻恵𤋮舘"),
    (0xfa70, "並况全侀充冀勇勺喝啕喙嗢塚墳奄奔婢嬨廒廙彩徭惘慎愈憎慠懲戴揄搜摒敖晴朗望杖歹殺流滛滋漢瀞煮瞧爵犯猪瑱甆画瘝瘟益盛直睊着磌"),
    (0xfaac, "窱節类絛練缾者荒華蝹襁覆視調諸請謁諾諭謹變贈輸遲醙鉶陼難靖韛響頋頻鬒龜𢡊𢡄𣏕㮝䀘䀹𥉉𥳐𧻓齃龎"), (0xfb20, "עאדהכלםרת"),
    (0xfb50, "ٱٱٻٻٻٻپپپپڀڀڀڀٺٺٺٺٿٿٿٿٹٹٹٹڤڤڤڤڦڦڦڦڄڄڄڄڃڃڃڃچچچچڇڇڇڇڍڍڌڌڎڎڈڈژژ"),
    (0xfb8c, "ڑڑککککگگگگڳڳڳڳڱڱڱڱںںڻڻڻڻۀۀہہہہھھھھےےۓۓ"), (0xfbd3, "ڭڭڭڭۇۇۆۆۈۈ"),
    (0xfbde, "ۋۋۅۅۉۉېېېېىى"), (0xfbfc, "یییی"), (0xfe33, "__"), (0xfe4d, "___"),
    (0xfe80, "ءآآأأؤؤإإئئئئااببببةةتتتتثثثثججججححححخخخخددذذررززسسسسششششصصص"),
    (0xfebc, "صضضضضططططظظظظععععغغغغففففققققككككللللممممننننههههووىىيييي"), (0xff10, "0123456789"),
    (0xff21, "ABCDEFGHIJKLMNOPQRSTUVWXYZ"), (0xff3f, "_"), (0xff41, "abcdefghijklmnopqrstuvwxyz"),
    (0xff66, "ヲァィゥェォャュョッーアイウエオカキクケコサシスセソタチツテトナニヌネノハヒフヘホマミムメモヤユヨラリルレロワン゙゚ᅠᄀ"),
    (0xffa2, "ᄁᆪᄂᆬᆭᄃᄄᄅᆰᆱᆲᆳᆴᆵᄚᄆᄇᄈᄡᄉᄊᄋᄌᄍᄎᄏᄐᄑᄒ"), (0xffc2, "ᅡᅢᅣᅤᅥᅦ"), (0xffca, "ᅧᅨᅩᅪᅫᅬ"),
    (0xffd2, "ᅭᅮᅯᅰᅱᅲ"), (0xffda, "ᅳᅴᅵ"), (0x10781, "ːˑæʙɓ"),
    (0x10787, "ʣꭦʥʤɖɗᶑɘɞʩɤɢɠʛħʜɧʄʪʫɬ𝼄ꞎɮ𝼅ʎ𝼆øɶɷqɺ𝼈ɽɾʀʨʦꭧʧʈⱱ"), (0x107b2, "ʏʡʢʘǀǁǂ𝼊𝼞"),
    (0x1d400, "ABCDEFGHIJKLMNOPQRSTUVWXYZabcdefghijklmnopqrstuvwxyzABCDEFGH"),
    (0x1d43c, "IJKLMNOPQRSTUVWXYZabcdefg"),
    (0x1d456, "ijklmnopqrstuvwxyzABCDEFGHIJKLMNOPQRSTUVWXYZabcdefghijklmnop"),
    (0x1d492, "qrstuvwxyzA"), (0x1d49e, "CD"), (0x1d4a2, "G"), (0x1d4a5, "JK"), (0x1d4a9, "NOPQ"),
    (0x1d4ae, "STUVWXYZabcd"), (0x1d4bb, "f"), (0x1d4bd, "hijklmn"),
    (0x1d4c5, "pqrstuvwxyzABCDEFGHIJKLMNOPQRSTUVWXYZabcdefghijklmnopqrstuvw"), (0x1d501, "xyzAB"),
    (0x1d507, "DEFG"), (0x1d50d, "JKLMNOPQ"), (0x1d516, "STUVWXY"),
    (0x1d51e, "abcdefghijklmnopqrstuvwxyzAB"), (0x1d53b, "DEFG"), (0x1d540, "IJKLM"),
    (0x1d546, "O"), (0x1d54a, "STUVWXY"),
    (0x1d552, "abcdefghijklmnopqrstuvwxyzABCDEFGHIJKLMNOPQRSTUVWXYZabcdefgh"),
    (0x1d58e, "ijklmnopqrstuvwxyzABCDEFGHIJKLMNOPQRSTUVWXYZabcdefghijklmnop"),
    (0x1d5ca, "qrstuvwxyzABCDEFGHIJKLMNOPQRSTUVWXYZabcdefghijklmnopqrstuvwx"),
    (0x1d606, "yzABCDEFGHIJKLMNOPQRSTUVWXYZabcdefghijklmnopqrstuvwxyzABCDEF"),
    (0x1d642, "GHIJKLMNOPQRSTUVWXYZabcdefghijklmnopqrstuvwxyzABCDEFGHIJKLMN"),
    (0x1d67e, "OPQRSTUVWXYZabcdefghijklmnopqrstuvwxyzıȷ"), (0x1d6a8, "ΑΒΓΔΕΖΗΘΙΚΛΜΝΞΟΠΡΘΣΤΥΦΧΨΩ"),
    (0x1d6c2, "αβγδεζηθικλμνξοπρςστυφχψω"), (0x1d6dc, "εθκφρπΑΒΓΔΕΖΗΘΙΚΛΜΝΞΟΠΡΘΣΤΥΦΧΨΩ"),
    (0x1d6fc, "αβγδεζηθικλμνξοπρςστυφχψω"), (0x1d716, "εθκφρπΑΒΓΔΕΖΗΘΙΚΛΜΝΞΟΠΡΘΣΤΥΦΧΨΩ"),
    (0x1d736, "αβγδεζηθικλμνξοπρςστυφχψω"), (0x1d750, "εθκφρπΑΒΓΔΕΖΗΘΙΚΛΜΝΞΟΠΡΘΣΤΥΦΧΨΩ"),
    (0x1d770, "αβγδεζηθικλμνξοπρςστυφχψω"), (0x1d78a, "εθκφρπΑΒΓΔΕΖΗΘΙΚΛΜΝΞΟΠΡΘΣΤΥΦΧΨΩ"),
    (0x1d7aa, "αβγδεζηθικλμνξοπρςστυφχψω"), (0x1d7c4, "εθκφρπϜϝ"),
    (0x1d7ce, "01234567890123456789012345678901234567890123456789"), (0x1ee00, "ابجد"),
    (0x1ee05, "وزحطيكلمنسعفصقرشتثخذضظغٮںڡٯ"), (0x1ee21, "بج"), (0x1ee24, "ه"), (0x1ee27, "ح"),
    (0x1ee29, "يكلمنسعفصق"), (0x1ee34, "شتثخ"), (0x1ee39, "ض"), (0x1ee3b, "غ"), (0x1ee42, "ج"),
    (0x1ee47, "ح"), (0x1ee49, "ي"), (0x1ee4b, "ل"), (0x1ee4d, "نسع"), (0x1ee51, "صق"),
    (0x1ee54, "ش"), (0x1ee57, "خ"), (0x1ee59, "ض"), (0x1ee5b, "غ"), (0x1ee5d, "ں"),
    (0x1ee5f, "ٯ"), (0x1ee61, "بج"), (0x1ee64, "ه"), (0x1ee67, "حطيك"), (0x1ee6c, "منسعفصق"),
    (0x1ee74, "شتثخ"), (0x1ee79, "ضظغٮ"), (0x1ee7e, "ڡ"), (0x1ee80, "ابجدهوزحطي"),
    (0x1ee8b, "لمنسعفصقرشتثخذضظغ"), (0x1eea1, "بجد"), (0x1eea5, "وزحطي"),
    (0x1eeab, "لمنسعفصقرشتثخذضظغ"), (0x1fbf0, "0123456789"),
    (0x2f800, "丽丸乁𠄢你侮侻倂偺備僧像㒞𠘺免兔兤具𠔜㒹內再𠕋冗冤仌冬况𩇟凵刃㓟刻剆割剷㔕勇勉勤勺包匆北卉卑博即卽卿卿卿𠨬灰及叟𠭣叫叱吆"),
    (0x2f83c, "咞吸呈周咢哶唐啓啣善善喙喫喳嗂圖嘆圗噑噴切壮城埴堍型堲報墬𡓤売壷夆多夢奢𡚨𡛪姬娛娧姘婦㛮㛼嬈嬾嬾𡧈寃寘寧寳𡬘寿将当尢㞁屠"),
    (0x2f878, "屮峀岍𡷤嵃𡷦嵮嵫嵼巡巢㠯巽帨帽幩㡢𢆃㡼庰庳庶廊𪎒廾𢌱𢌱舁弢弢㣇𣊸𦇚形彫㣣徚忍志忹悁㤺㤜悔𢛔惇慈慌慎慌慺憎憲憤憯懞懲懶成戛"),
    (0x2f8b4, "扝抱拔捐𢬌挽拼捨掃揤𢯱搢揅掩㨮摩摾撝摷㩬敏敬𣀊旣書晉㬙暑㬈㫤冒冕最暜肭䏙朗望朡杞杓𣏃㭉柺枅桒梅𣑭梎栟椔㮝楂榣槪檨𣚣櫛㰘次"),
    (0x2f8f0, "𣢧歔㱎歲殟殺殻𣪍𡴋𣫺汎𣲼沿泍汧洖派海流浩浸涅𣴞洴港湮㴳滋滇𣻑淹潮𣽞𣾎濆瀹瀞瀛㶖灊災灷炭𠔥煅𤉣熜𤎫爨爵牐𤘈犀犕𤜵𤠔獺王㺬玥"),
    (0x2f92c, "㺸㺸瑇瑜瑱璅瓊㼛甤𤰶甾𤲒異𢆟瘐𤾡𤾸𥁄㿼䀈直𥃳𥃲𥄙𥄳眞真真睊䀹瞋䁆䂖𥐝硎碌磌䃣𥘦祖𥚚𥛅福秫䄯穀穊穏𥥼𥪧𥪧竮䈂𥮫篆築䈧𥲀糒䊠"),
    (0x2f968, "糨糣紀𥾆絣䌁緇縂繅䌴𦈨𦉇䍙𦋙罺𦌾羕翺者𦓚𦔣聠𦖨聰𣍟䏕育脃䐋脾媵𦞧𦞵𣎓𣎜舁舄辞䑫芑芋芝劳花芳芽苦𦬼若茝荣莭茣莽菧著荓菊菌菜"),
    (0x2f9a4, "𦰶𦵫𦳕䔫蓱蓳蔖𧏊蕤𦼬䕝䕡𦾱𧃒䕫虐虜虧虩蚩蚈蜎蛢蝹蜨蝫螆䗗蟡蠁䗹衠衣𧙧裗裞䘵裺㒻𧢮𧥦䚾䛇誠諭變豕𧲨貫賁贛起𧼯𠠄跋趼跰𠣞軔輸"),
    (0x2f9e0, "𨗒𨗭邔郱鄑𨜮鄛鈸鋗鋘鉼鏹鐕𨯺開䦕閷𨵷䧦雃嶲霣𩅅𩈚䩮䩶韠𩐊䪲𩒖頋頋頩𩖶飢䬳餩馧駂駾䯎𩬰鬒鱀鳽䳎䳭鵧𪃎䳸𪄅𪈎𪊑麻䵖黹黾鼅鼏鼖"), (0x2fa1c, "鼻𪘀")]

/-- Characters that stand for several. -/
def severalForms : List (Nat × String) := [
    (0x132, "IJ"), (0x133, "ij"), (0x13f, "L·"), (0x140, "l·"), (0x149, "ʼn"), (0x1c4, "DŽ"),
    (0x1c5, "Dž"), (0x1c6, "dž"), (0x1c7, "LJ"), (0x1c8, "Lj"), (0x1c9, "lj"), (0x1ca, "NJ"),
    (0x1cb, "Nj"), (0x1cc, "nj"), (0x1f1, "DZ"), (0x1f2, "Dz"), (0x1f3, "dz"), (0x344, "̈́"),
    (0x587, "եւ"), (0x675, "اٴ"), (0x676, "وٴ"), (0x677, "ۇٴ"), (0x678, "يٴ"), (0x958, "क़"),
    (0x959, "ख़"), (0x95a, "ग़"), (0x95b, "ज़"), (0x95c, "ड़"), (0x95d, "ढ़"), (0x95e, "फ़"),
    (0x95f, "य़"), (0x9dc, "ড়"), (0x9dd, "ঢ়"), (0x9df, "য়"), (0xa33, "ਲ਼"), (0xa36, "ਸ਼"),
    (0xa59, "ਖ਼"), (0xa5a, "ਗ਼"), (0xa5b, "ਜ਼"), (0xa5e, "ਫ਼"), (0xb5c, "ଡ଼"), (0xb5d, "ଢ଼"),
    (0xe33, "ํา"), (0xeb3, "ໍາ"), (0xedc, "ຫນ"), (0xedd, "ຫມ"), (0xf43, "གྷ"), (0xf4d, "ཌྷ"),
    (0xf52, "དྷ"), (0xf57, "བྷ"), (0xf5c, "ཛྷ"), (0xf69, "ཀྵ"), (0xf73, "ཱི"), (0xf75, "ཱུ"),
    (0xf76, "ྲྀ"), (0xf77, "ྲཱྀ"), (0xf78, "ླྀ"), (0xf79, "ླཱྀ"), (0xf81, "ཱྀ"), (0xf93, "ྒྷ"),
    (0xf9d, "ྜྷ"), (0xfa2, "ྡྷ"), (0xfa7, "ྦྷ"), (0xfac, "ྫྷ"), (0xfb9, "ྐྵ"), (0x1e9a, "aʾ"),
    (0x2161, "II"), (0x2162, "III"), (0x2163, "IV"), (0x2165, "VI"), (0x2166, "VII"),
    (0x2167, "VIII"), (0x2168, "IX"), (0x216a, "XI"), (0x216b, "XII"), (0x2171, "ii"),
    (0x2172, "iii"), (0x2173, "iv"), (0x2175, "vi"), (0x2176, "vii"), (0x2177, "viii"),
    (0x2178, "ix"), (0x217a, "xi"), (0x217b, "xii"), (0x309f, "より"), (0x30ff, "コト"),
    (0xfb00, "ff"), (0xfb01, "fi"), (0xfb02, "fl"), (0xfb03, "ffi"), (0xfb04, "ffl"),
    (0xfb05, "st"), (0xfb06, "st"), (0xfb13, "մն"), (0xfb14, "մե"), (0xfb15, "մի"),
    (0xfb16, "վն"), (0xfb17, "մխ"), (0xfb1d, "יִ"), (0xfb1f, "ײַ"), (0xfb2a, "שׁ"),
    (0xfb2b, "שׂ"), (0xfb2c, "שּׁ"), (0xfb2d, "שּׂ"), (0xfb2e, "אַ"), (0xfb2f, "אָ"),
    (0xfb30, "אּ"), (0xfb31, "בּ"), (0xfb32, "גּ"), (0xfb33, "דּ"), (0xfb34, "הּ"),
    (0xfb35, "וּ"), (0xfb36, "זּ"), (0xfb38, "טּ"), (0xfb39, "יּ"), (0xfb3a, "ךּ"),
    (0xfb3b, "כּ"), (0xfb3c, "לּ"), (0xfb3e, "מּ"), (0xfb40, "נּ"), (0xfb41, "סּ"),
    (0xfb43, "ףּ"), (0xfb44, "פּ"), (0xfb46, "צּ"), (0xfb47, "קּ"), (0xfb48, "רּ"),
    (0xfb49, "שּ"), (0xfb4a, "תּ"), (0xfb4b, "וֹ"), (0xfb4c, "בֿ"), (0xfb4d, "כֿ"),
    (0xfb4e, "פֿ"), (0xfb4f, "אל"), (0xfbdd, "ۇٴ"), (0xfbea, "ئا"), (0xfbeb, "ئا"),
    (0xfbec, "ئە"), (0xfbed, "ئە"), (0xfbee, "ئو"), (0xfbef, "ئو"), (0xfbf0, "ئۇ"),
    (0xfbf1, "ئۇ"), (0xfbf2, "ئۆ"), (0xfbf3, "ئۆ"), (0xfbf4, "ئۈ"), (0xfbf5, "ئۈ"),
    (0xfbf6, "ئې"), (0xfbf7, "ئې"), (0xfbf8, "ئې"), (0xfbf9, "ئى"), (0xfbfa, "ئى"),
    (0xfbfb, "ئى"), (0xfc00, "ئج"), (0xfc01, "ئح"), (0xfc02, "ئم"), (0xfc03, "ئى"),
    (0xfc04, "ئي"), (0xfc05, "بج"), (0xfc06, "بح"), (0xfc07, "بخ"), (0xfc08, "بم"),
    (0xfc09, "بى"), (0xfc0a, "بي"), (0xfc0b, "تج"), (0xfc0c, "تح"), (0xfc0d, "تخ"),
    (0xfc0e, "تم"), (0xfc0f, "تى"), (0xfc10, "تي"), (0xfc11, "ثج"), (0xfc12, "ثم"),
    (0xfc13, "ثى"), (0xfc14, "ثي"), (0xfc15, "جح"), (0xfc16, "جم"), (0xfc17, "حج"),
    (0xfc18, "حم"), (0xfc19, "خج"), (0xfc1a, "خح"), (0xfc1b, "خم"), (0xfc1c, "سج"),
    (0xfc1d, "سح"), (0xfc1e, "سخ"), (0xfc1f, "سم"), (0xfc20, "صح"), (0xfc21, "صم"),
    (0xfc22, "ضج"), (0xfc23, "ضح"), (0xfc24, "ضخ"), (0xfc25, "ضم"), (0xfc26, "طح"),
    (0xfc27, "طم"), (0xfc28, "ظم"), (0xfc29, "عج"), (0xfc2a, "عم"), (0xfc2b, "غج"),
    (0xfc2c, "غم"), (0xfc2d, "فج"), (0xfc2e, "فح"), (0xfc2f, "فخ"), (0xfc30, "فم"),
    (0xfc31, "فى"), (0xfc32, "في"), (0xfc33, "قح"), (0xfc34, "قم"), (0xfc35, "قى"),
    (0xfc36, "قي"), (0xfc37, "كا"), (0xfc38, "كج"), (0xfc39, "كح"), (0xfc3a, "كخ"),
    (0xfc3b, "كل"), (0xfc3c, "كم"), (0xfc3d, "كى"), (0xfc3e, "كي"), (0xfc3f, "لج"),
    (0xfc40, "لح"), (0xfc41, "لخ"), (0xfc42, "لم"), (0xfc43, "لى"), (0xfc44, "لي"),
    (0xfc45, "مج"), (0xfc46, "مح"), (0xfc47, "مخ"), (0xfc48, "مم"), (0xfc49, "مى"),
    (0xfc4a, "مي"), (0xfc4b, "نج"), (0xfc4c, "نح"), (0xfc4d, "نخ"), (0xfc4e, "نم"),
    (0xfc4f, "نى"), (0xfc50, "ني"), (0xfc51, "هج"), (0xfc52, "هم"), (0xfc53, "هى"),
    (0xfc54, "هي"), (0xfc55, "يج"), (0xfc56, "يح"), (0xfc57, "يخ"), (0xfc58, "يم"),
    (0xfc59, "يى"), (0xfc5a, "يي"), (0xfc5b, "ذٰ"), (0xfc5c, "رٰ"), (0xfc5d, "ىٰ"),
    (0xfc64, "ئر"), (0xfc65, "ئز"), (0xfc66, "ئم"), (0xfc67, "ئن"), (0xfc68, "ئى"),
    (0xfc69, "ئي"), (0xfc6a, "بر"), (0xfc6b, "بز"), (0xfc6c, "بم"), (0xfc6d, "بن"),
    (0xfc6e, "بى"), (0xfc6f, "بي"), (0xfc70, "تر"), (0xfc71, "تز"), (0xfc72, "تم"),
    (0xfc73, "تن"), (0xfc74, "تى"), (0xfc75, "تي"), (0xfc76, "ثر"), (0xfc77, "ثز"),
    (0xfc78, "ثم"), (0xfc79, "ثن"), (0xfc7a, "ثى"), (0xfc7b, "ثي"), (0xfc7c, "فى"),
    (0xfc7d, "في"), (0xfc7e, "قى"), (0xfc7f, "قي"), (0xfc80, "كا"), (0xfc81, "كل"),
    (0xfc82, "كم"), (0xfc83, "كى"), (0xfc84, "كي"), (0xfc85, "لم"), (0xfc86, "لى"),
    (0xfc87, "لي"), (0xfc88, "ما"), (0xfc89, "مم"), (0xfc8a, "نر"), (0xfc8b, "نز"),
    (0xfc8c, "نم"), (0xfc8d, "نن"), (0xfc8e, "نى"), (0xfc8f, "ني"), (0xfc90, "ىٰ"),
    (0xfc91, "ير"), (0xfc92, "يز"), (0xfc93, "يم"), (0xfc94, "ين"), (0xfc95, "يى"),
    (0xfc96, "يي"), (0xfc97, "ئج"), (0xfc98, "ئح"), (0xfc99, "ئخ"), (0xfc9a, "ئم"),
    (0xfc9b, "ئه"), (0xfc9c, "بج"), (0xfc9d, "بح"), (0xfc9e, "بخ"), (0xfc9f, "بم"),
    (0xfca0, "به"), (0xfca1, "تج"), (0xfca2, "تح"), (0xfca3, "تخ"), (0xfca4, "تم"),
    (0xfca5, "ته"), (0xfca6, "ثم"), (0xfca7, "جح"), (0xfca8, "جم"), (0xfca9, "حج"),
    (0xfcaa, "حم"), (0xfcab, "خج"), (0xfcac, "خم"), (0xfcad, "سج"), (0xfcae, "سح"),
    (0xfcaf, "سخ"), (0xfcb0, "سم"), (0xfcb1, "صح"), (0xfcb2, "صخ"), (0xfcb3, "صم"),
    (0xfcb4, "ضج"), (0xfcb5, "ضح"), (0xfcb6, "ضخ"), (0xfcb7, "ضم"), (0xfcb8, "طح"),
    (0xfcb9, "ظم"), (0xfcba, "عج"), (0xfcbb, "عم"), (0xfcbc, "غج"), (0xfcbd, "غم"),
    (0xfcbe, "فج"), (0xfcbf, "فح"), (0xfcc0, "فخ"), (0xfcc1, "فم"), (0xfcc2, "قح"),
    (0xfcc3, "قم"), (0xfcc4, "كج"), (0xfcc5, "كح"), (0xfcc6, "كخ"), (0xfcc7, "كل"),
    (0xfcc8, "كم"), (0xfcc9, "لج"), (0xfcca, "لح"), (0xfccb, "لخ"), (0xfccc, "لم"),
    (0xfccd, "له"), (0xfcce, "مج"), (0xfccf, "مح"), (0xfcd0, "مخ"), (0xfcd1, "مم"),
    (0xfcd2, "نج"), (0xfcd3, "نح"), (0xfcd4, "نخ"), (0xfcd5, "نم"), (0xfcd6, "نه"),
    (0xfcd7, "هج"), (0xfcd8, "هم"), (0xfcd9, "هٰ"), (0xfcda, "يج"), (0xfcdb, "يح"),
    (0xfcdc, "يخ"), (0xfcdd, "يم"), (0xfcde, "يه"), (0xfcdf, "ئم"), (0xfce0, "ئه"),
    (0xfce1, "بم"), (0xfce2, "به"), (0xfce3, "تم"), (0xfce4, "ته"), (0xfce5, "ثم"),
    (0xfce6, "ثه"), (0xfce7, "سم"), (0xfce8, "سه"), (0xfce9, "شم"), (0xfcea, "شه"),
    (0xfceb, "كل"), (0xfcec, "كم"), (0xfced, "لم"), (0xfcee, "نم"), (0xfcef, "نه"),
    (0xfcf0, "يم"), (0xfcf1, "يه"), (0xfcf2, "ـَّ"), (0xfcf3, "ـُّ"), (0xfcf4, "ـِّ"),
    (0xfcf5, "طى"), (0xfcf6, "طي"), (0xfcf7, "عى"), (0xfcf8, "عي"), (0xfcf9, "غى"),
    (0xfcfa, "غي"), (0xfcfb, "سى"), (0xfcfc, "سي"), (0xfcfd, "شى"), (0xfcfe, "شي"),
    (0xfcff, "حى"), (0xfd00, "حي"), (0xfd01, "جى"), (0xfd02, "جي"), (0xfd03, "خى"),
    (0xfd04, "خي"), (0xfd05, "صى"), (0xfd06, "صي"), (0xfd07, "ضى"), (0xfd08, "ضي"),
    (0xfd09, "شج"), (0xfd0a, "شح"), (0xfd0b, "شخ"), (0xfd0c, "شم"), (0xfd0d, "شر"),
    (0xfd0e, "سر"), (0xfd0f, "صر"), (0xfd10, "ضر"), (0xfd11, "طى"), (0xfd12, "طي"),
    (0xfd13, "عى"), (0xfd14, "عي"), (0xfd15, "غى"), (0xfd16, "غي"), (0xfd17, "سى"),
    (0xfd18, "سي"), (0xfd19, "شى"), (0xfd1a, "شي"), (0xfd1b, "حى"), (0xfd1c, "حي"),
    (0xfd1d, "جى"), (0xfd1e, "جي"), (0xfd1f, "خى"), (0xfd20, "خي"), (0xfd21, "صى"),
    (0xfd22, "صي"), (0xfd23, "ضى"), (0xfd24, "ضي"), (0xfd25, "شج"), (0xfd26, "شح"),
    (0xfd27, "شخ"), (0xfd28, "شم"), (0xfd29, "شر"), (0xfd2a, "سر"), (0xfd2b, "صر"),
    (0xfd2c, "ضر"), (0xfd2d, "شج"), (0xfd2e, "شح"), (0xfd2f, "شخ"), (0xfd30, "شم"),
    (0xfd31, "سه"), (0xfd32, "شه"), (0xfd33, "طم"), (0xfd34, "سج"), (0xfd35, "سح"),
    (0xfd36, "سخ"), (0xfd37, "شج"), (0xfd38, "شح"), (0xfd39, "شخ"), (0xfd3a, "طم"),
    (0xfd3b, "ظم"), (0xfd3c, "اً"), (0xfd3d, "اً"), (0xfd50, "تجم"), (0xfd51, "تحج"),
    (0xfd52, "تحج"), (0xfd53, "تحم"), (0xfd54, "تخم"), (0xfd55, "تمج"), (0xfd56, "تمح"),
    (0xfd57, "تمخ"), (0xfd58, "جمح"), (0xfd59, "جمح"), (0xfd5a, "حمي"), (0xfd5b, "حمى"),
    (0xfd5c, "سحج"), (0xfd5d, "سجح"), (0xfd5e, "سجى"), (0xfd5f, "سمح"), (0xfd60, "سمح"),
    (0xfd61, "سمج"), (0xfd62, "سمم"), (0xfd63, "سمم"), (0xfd64, "صحح"), (0xfd65, "صحح"),
    (0xfd66, "صمم"), (0xfd67, "شحم"), (0xfd68, "شحم"), (0xfd69, "شجي"), (0xfd6a, "شمخ"),
    (0xfd6b, "شمخ"), (0xfd6c, "شمم"), (0xfd6d, "شمم"), (0xfd6e, "ضحى"), (0xfd6f, "ضخم"),
    (0xfd70, "ضخم"), (0xfd71, "طمح"), (0xfd72, "طمح"), (0xfd73, "طمم"), (0xfd74, "طمي"),
    (0xfd75, "عجم"), (0xfd76, "عمم"), (0xfd77, "عمم"), (0xfd78, "عمى"), (0xfd79, "غمم"),
    (0xfd7a, "غمي"), (0xfd7b, "غمى"), (0xfd7c, "فخم"), (0xfd7d, "فخم"), (0xfd7e, "قمح"),
    (0xfd7f, "قمم"), (0xfd80, "لحم"), (0xfd81, "لحي"), (0xfd82, "لحى"), (0xfd83, "لجج"),
    (0xfd84, "لجج"), (0xfd85, "لخم"), (0xfd86, "لخم"), (0xfd87, "لمح"), (0xfd88, "لمح"),
    (0xfd89, "محج"), (0xfd8a, "محم"), (0xfd8b, "محي"), (0xfd8c, "مجح"), (0xfd8d, "مجم"),
    (0xfd8e, "مخج"), (0xfd8f, "مخم"), (0xfd92, "مجخ"), (0xfd93, "همج"), (0xfd94, "همم"),
    (0xfd95, "نحم"), (0xfd96, "نحى"), (0xfd97, "نجم"), (0xfd98, "نجم"), (0xfd99, "نجى"),
    (0xfd9a, "نمي"), (0xfd9b, "نمى"), (0xfd9c, "يمم"), (0xfd9d, "يمم"), (0xfd9e, "بخي"),
    (0xfd9f, "تجي"), (0xfda0, "تجى"), (0xfda1, "تخي"), (0xfda2, "تخى"), (0xfda3, "تمي"),
    (0xfda4, "تمى"), (0xfda5, "جمي"), (0xfda6, "جحى"), (0xfda7, "جمى"), (0xfda8, "سخى"),
    (0xfda9, "صحي"), (0xfdaa, "شحي"), (0xfdab, "ضحي"), (0xfdac, "لجي"), (0xfdad, "لمي"),
    (0xfdae, "يحي"), (0xfdaf, "يجي"), (0xfdb0, "يمي"), (0xfdb1, "ممي"), (0xfdb2, "قمي"),
    (0xfdb3, "نحي"), (0xfdb4, "قمح"), (0xfdb5, "لحم"), (0xfdb6, "عمي"), (0xfdb7, "كمي"),
    (0xfdb8, "نجح"), (0xfdb9, "مخي"), (0xfdba, "لجم"), (0xfdbb, "كمم"), (0xfdbc, "لجم"),
    (0xfdbd, "نجح"), (0xfdbe, "جحي"), (0xfdbf, "حجي"), (0xfdc0, "مجي"), (0xfdc1, "فمي"),
    (0xfdc2, "بحي"), (0xfdc3, "كمم"), (0xfdc4, "عجم"), (0xfdc5, "صمم"), (0xfdc6, "سخي"),
    (0xfdc7, "نجي"), (0xfdf0, "صلے"), (0xfdf1, "قلے"), (0xfdf2, "الله"), (0xfdf3, "اكبر"),
    (0xfdf4, "محمد"), (0xfdf5, "صلعم"), (0xfdf6, "رسول"), (0xfdf7, "عليه"), (0xfdf8, "وسلم"),
    (0xfdf9, "صلى"), (0xfe71, "ـً"), (0xfe77, "ـَ"), (0xfe79, "ـُ"), (0xfe7b, "ـِ"),
    (0xfe7d, "ـّ"), (0xfe7f, "ـْ"), (0xfef5, "لآ"), (0xfef6, "لآ"), (0xfef7, "لأ"),
    (0xfef8, "لأ"), (0xfef9, "لإ"), (0xfefa, "لإ"), (0xfefb, "لا"), (0xfefc, "لا")]

/-- Letters with a mark: the code point of the mark, then in turn a letter and the character that
is this letter with the mark. -/
def markedLetters : List (Nat × String) := [
    (0x300, "AÀEÈIÌNǸOÒUÙWẀYỲaàeèiìnǹoòuùwẁyỳÂẦÊỀÔỒÜǛâầêềôồüǜĂẰăằĒḔēḕŌṐōṑ"),
    (0x300, "ƠỜơờƯỪưừΑᾺΕῈΗῊΙῚΟῸΥῪΩῺαὰεὲηὴιὶοὸυὺωὼϊῒϋῢЕЀИЍеѐиѝἀἂἁἃἈἊἉἋἐἒἑἓ"),
    (0x300, "ἘἚἙἛἠἢἡἣἨἪἩἫἰἲἱἳἸἺἹἻὀὂὁὃὈὊὉὋὐὒὑὓὙὛὠὢὡὣὨὪὩὫ"),
    (0x301, "AÁCĆEÉGǴIÍKḰLĹMḾNŃOÓPṔRŔSŚUÚWẂYÝZŹaácćeégǵiíkḱlĺmḿnńoópṕrŕsś"),
    (0x301, "uúwẃyýzźÂẤÅǺÆǼÇḈÊẾÏḮÔỐÕṌØǾÜǗâấåǻæǽçḉêếïḯôốõṍøǿüǘĂẮăắĒḖēḗŌṒōṓ"),
    (0x301, "ŨṸũṹƠỚơớƯỨưứΑΆΕΈΗΉΙΊΟΌΥΎΩΏαάεέηήιίοόυύωώϊΐϋΰϒϓГЃКЌгѓкќἀἄἁἅἈἌ"),
    (0x301, "ἉἍἐἔἑἕἘἜἙἝἠἤἡἥἨἬἩἭἰἴἱἵἸἼἹἽὀὄὁὅὈὌὉὍὐὔὑὕὙὝὠὤὡὥὨὬὩὭ"),
    (0x302, "AÂCĈEÊGĜHĤIÎJĴOÔSŜUÛWŴYŶZẐaâcĉeêgĝhĥiîjĵoôsŝuûwŵyŷzẑẠẬạậẸỆẹệ"), (0x302, "ỌỘọộ"),
    (0x303, "AÃEẼIĨNÑOÕUŨVṼYỸaãeẽiĩnñoõuũvṽyỹÂẪÊỄÔỖâẫêễôỗĂẴăẵƠỠơỡƯỮưữ"),
    (0x304, "AĀEĒGḠIĪOŌUŪYȲaāeēgḡiīoōuūyȳÄǞÆǢÕȬÖȪÜǕäǟæǣõȭöȫüǖǪǬǫǭȦǠȧǡȮȰȯȱ"),
    (0x304, "ΑᾹΙῙΥῩαᾱιῑυῡИӢУӮиӣуӯḶḸḷḹṚṜṛṝ"),
    (0x306, "AĂEĔGĞIĬOŎUŬaăeĕgğiĭoŏuŭȨḜȩḝΑᾸΙῘΥῨαᾰιῐυῠАӐЕӖЖӁИЙУЎаӑеӗжӂийуў"), (0x306, "ẠẶạặ"),
    (0x307, "AȦBḂCĊDḊEĖFḞGĠHḢIİMṀNṄOȮPṖRṘSṠTṪWẆXẊYẎZŻaȧbḃcċdḋeėfḟgġhḣmṁnṅ"),
    (0x307, "oȯpṗrṙsṡtṫwẇxẋyẏzżŚṤśṥŠṦšṧſẛṢṨṣṩ"),
    (0x308, "AÄEËHḦIÏOÖUÜWẄXẌYŸaäeëhḧiïoötẗuüwẅxẍyÿÕṎõṏŪṺūṻΙΪΥΫιϊυϋϒϔІЇАӒ"),
    (0x308, "ЕЁЖӜЗӞИӤОӦУӰЧӴЫӸЭӬаӓеёжӝзӟиӥоӧуӱчӵыӹэӭіїӘӚәӛӨӪөӫ"),
    (0x309, "AẢEẺIỈOỎUỦYỶaảeẻiỉoỏuủyỷÂẨÊỂÔỔâẩêểôổĂẲăẳƠỞơởƯỬưử"), (0x30a, "AÅUŮaåuůwẘyẙ"),
    (0x30b, "OŐUŰoőuűУӲуӳ"),
    (0x30c, "AǍCČDĎEĚGǦHȞIǏKǨLĽNŇOǑRŘSŠTŤUǓZŽaǎcčdďeěgǧhȟiǐjǰkǩlľnňoǒrřsš"),
    (0x30c, "tťuǔzžÜǙüǚƷǮʒǯ"), (0x30f, "AȀEȄIȈOȌRȐUȔaȁeȅiȉoȍrȑuȕѴѶѵѷ"),
    (0x311, "AȂEȆIȊOȎRȒUȖaȃeȇiȋoȏrȓuȗ"), (0x313, "ΑἈΕἘΗἨΙἸΟὈΩὨαἀεἐηἠιἰοὀρῤυὐωὠ"),
    (0x314, "ΑἉΕἙΗἩΙἹΟὉΡῬΥὙΩὩαἁεἑηἡιἱοὁρῥυὑωὡ"), (0x31b, "OƠUƯoơuư"),
    (0x323, "AẠBḄDḌEẸHḤIỊKḲLḶMṂNṆOỌRṚSṢTṬUỤVṾWẈYỴZẒaạbḅdḍeẹhḥiịkḳlḷmṃnṇoọ"),
    (0x323, "rṛsṣtṭuụvṿwẉyỵzẓƠỢơợƯỰưự"), (0x324, "UṲuṳ"), (0x325, "AḀaḁ"), (0x326, "SȘTȚsștț"),
    (0x327, "CÇDḐEȨGĢHḨKĶLĻNŅRŖSŞTŢcçdḑeȩgģhḩkķlļnņrŗsştţ"), (0x328, "AĄEĘIĮOǪUŲaąeęiįoǫuų"),
    (0x32d, "DḒEḘLḼNṊTṰUṶdḓeḙlḽnṋtṱuṷ"), (0x32e, "HḪhḫ"), (0x330, "EḚIḬUṴeḛiḭuṵ"),
    (0x331, "BḆDḎKḴLḺNṈRṞTṮZẔbḇdḏhẖkḵlḻnṉrṟtṯzẕ"),
    (0x342, "αᾶηῆιῖυῦωῶϊῗϋῧἀἆἁἇἈἎἉἏἠἦἡἧἨἮἩἯἰἶἱἷἸἾἹἿὐὖὑὗὙὟὠὦὡὧὨὮὩὯ"),
    (0x345, "ΑᾼΗῌΩῼάᾴήῄαᾳηῃωῳώῴἀᾀἁᾁἂᾂἃᾃἄᾄἅᾅἆᾆἇᾇἈᾈἉᾉἊᾊἋᾋἌᾌἍᾍἎᾎἏᾏἠᾐἡᾑἢᾒἣᾓἤᾔ"),
    (0x345, "ἥᾕἦᾖἧᾗἨᾘἩᾙἪᾚἫᾛἬᾜἭᾝἮᾞἯᾟὠᾠὡᾡὢᾢὣᾣὤᾤὥᾥὦᾦὧᾧὨᾨὩᾩὪᾪὫᾫὬᾬὭᾭὮᾮὯᾯὰᾲὴῂὼῲ"), (0x345, "ᾶᾷῆῇῶῷ"),
    (0x653, "اآ"), (0x654, "اأوؤيئہۂےۓەۀ"), (0x655, "اإ"), (0x93c, "नऩरऱळऴ"), (0x9be, "েো"),
    (0x9d7, "েৌ"), (0xb3e, "େୋ"), (0xb56, "େୈ"), (0xb57, "େୌ"), (0xbbe, "ெொேோ"), (0xbd7, "ஒஔெௌ"),
    (0xc56, "ెై"), (0xcc2, "ೆೊ"), (0xcd5, "ಿೀೆೇೊೋ"), (0xcd6, "ೆೈ"), (0xd3e, "െൊേോ"),
    (0xd57, "െൌ"), (0xdca, "ෙේොෝ"), (0xdcf, "ෙො"), (0xddf, "ෙෞ"), (0x102e, "ဥဦ"),
    (0x1b35, "ᬅᬆᬇᬈᬉᬊᬋᬌᬍᬎᬑᬒᬺᬻᬼᬽᬾᭀᬿᭁᭂᭃ"),
    (0x3099, "うゔかがきぎくぐけげこごさざしじすずせぜそぞただちぢつづてでとどはばひびふぶへべほぼゝゞウヴカガキギクグケゲコゴサザシジ"),
    (0x3099, "スズセゼソゾタダチヂツヅテデトドハバヒビフブヘベホボワヷヰヸヱヹヲヺヽヾ"), (0x309a, "はぱひぴふぷへぺほぽハパヒピフプヘペホポ"),
    (0x110ba, "𑂙𑂚𑂛𑂜𑂥𑂫"), (0x11127, "𑄱𑄮𑄲𑄯"), (0x1133e, "𑍇𑍋"), (0x11357, "𑍇𑍌"), (0x114b0, "𑒹𑒼"),
    (0x114ba, "𑒹𑒻"), (0x114bd, "𑒹𑒾"), (0x115af, "𑖸𑖺𑖹𑖻"), (0x11930, "𑤵𑤸")]

/-- Runs of marks with a common class. -/
def markClasses : List (Nat × Nat × Nat) := [
    (768, 788, 230), (789, 789, 232), (790, 793, 220), (794, 794, 232), (795, 795, 216),
    (796, 800, 220), (801, 802, 202), (803, 806, 220), (807, 808, 202), (809, 819, 220),
    (820, 824, 1), (825, 828, 220), (829, 836, 230), (837, 837, 240), (838, 838, 230),
    (839, 841, 220), (842, 844, 230), (845, 846, 220), (848, 850, 230), (851, 854, 220),
    (855, 855, 230), (856, 856, 232), (857, 858, 220), (859, 859, 230), (860, 860, 233),
    (861, 862, 234), (863, 863, 233), (864, 865, 234), (866, 866, 233), (867, 879, 230),
    (1155, 1159, 230), (1425, 1425, 220), (1426, 1429, 230), (1430, 1430, 220), (1431, 1433, 230),
    (1434, 1434, 222), (1435, 1435, 220), (1436, 1441, 230), (1442, 1447, 220), (1448, 1449, 230),
    (1450, 1450, 220), (1451, 1452, 230), (1453, 1453, 222), (1454, 1454, 228), (1455, 1455, 230),
    (1456, 1456, 10), (1457, 1457, 11), (1458, 1458, 12), (1459, 1459, 13), (1460, 1460, 14),
    (1461, 1461, 15), (1462, 1462, 16), (1463, 1463, 17), (1464, 1464, 18), (1465, 1466, 19),
    (1467, 1467, 20), (1468, 1468, 21), (1469, 1469, 22), (1471, 1471, 23), (1473, 1473, 24),
    (1474, 1474, 25), (1476, 1476, 230), (1477, 1477, 220), (1479, 1479, 18), (1552, 1559, 230),
    (1560, 1560, 30), (1561, 1561, 31), (1562, 1562, 32), (1611, 1611, 27), (1612, 1612, 28),
    (1613, 1613, 29), (1614, 1614, 30), (1615, 1615, 31), (1616, 1616, 32), (1617, 1617, 33),
    (1618, 1618, 34), (1619, 1620, 230), (1621, 1622, 220), (1623, 1627, 230), (1628, 1628, 220),
    (1629, 1630, 230), (1631, 1631, 220), (1648, 1648, 35), (1750, 1756, 230), (1759, 1762, 230),
    (1763, 1763, 220), (1764, 1764, 230), (1767, 1768, 230), (1770, 1770, 220), (1771, 1772, 230),
    (1773, 1773, 220), (1809, 1809, 36), (1840, 1840, 230), (1841, 1841, 220), (1842, 1843, 230),
    (1844, 1844, 220), (1845, 1846, 230), (1847, 1849, 220), (1850, 1850, 230), (1851, 1852, 220),
    (1853, 1853, 230), (1854, 1854, 220), (1855, 1857, 230), (1858, 1858, 220), (1859, 1859, 230),
    (1860, 1860, 220), (1861, 1861, 230), (1862, 1862, 220), (1863, 1863, 230), (1864, 1864, 220),
    (1865, 1866, 230), (2027, 2033, 230), (2034, 2034, 220), (2035, 2035, 230), (2045, 2045, 220),
    (2070, 2073, 230), (2075, 2083, 230), (2085, 2087, 230), (2089, 2093, 230), (2137, 2139, 220),
    (2200, 2200, 230), (2201, 2203, 220), (2204, 2207, 230), (2250, 2254, 230), (2255, 2259, 220),
    (2260, 2273, 230), (2275, 2275, 220), (2276, 2277, 230), (2278, 2278, 220), (2279, 2280, 230),
    (2281, 2281, 220), (2282, 2284, 230), (2285, 2287, 220), (2288, 2288, 27), (2289, 2289, 28),
    (2290, 2290, 29), (2291, 2293, 230), (2294, 2294, 220), (2295, 2296, 230), (2297, 2298, 220),
    (2299, 2303, 230), (2364, 2364, 7), (2381, 2381, 9), (2385, 2385, 230), (2386, 2386, 220),
    (2387, 2388, 230), (2492, 2492, 7), (2509, 2509, 9), (2558, 2558, 230), (2620, 2620, 7),
    (2637, 2637, 9), (2748, 2748, 7), (2765, 2765, 9), (2876, 2876, 7), (2893, 2893, 9),
    (3021, 3021, 9), (3132, 3132, 7), (3149, 3149, 9), (3157, 3157, 84), (3158, 3158, 91),
    (3260, 3260, 7), (3277, 3277, 9), (3387, 3388, 9), (3405, 3405, 9), (3530, 3530, 9),
    (3640, 3641, 103), (3642, 3642, 9), (3656, 3659, 107), (3768, 3769, 118), (3770, 3770, 9),
    (3784, 3787, 122), (3864, 3865, 220), (3893, 3893, 220), (3895, 3895, 220), (3897, 3897, 216),
    (3953, 3953, 129), (3954, 3954, 130), (3956, 3956, 132), (3962, 3965, 130), (3968, 3968, 130),
    (3970, 3971, 230), (3972, 3972, 9), (3974, 3975, 230), (4038, 4038, 220), (4151, 4151, 7),
    (4153, 4154, 9), (4237, 4237, 220), (4957, 4959, 230), (5908, 5909, 9), (5940, 5940, 9),
    (6098, 6098, 9), (6109, 6109, 230), (6313, 6313, 228), (6457, 6457, 222), (6458, 6458, 230),
    (6459, 6459, 220), (6679, 6679, 230), (6680, 6680, 220), (6752, 6752, 9), (6773, 6780, 230),
    (6783, 6783, 220), (6832, 6836, 230), (6837, 6842, 220), (6843, 6844, 230), (6845, 6845, 220),
    (6847, 6848, 220), (6849, 6850, 230), (6851, 6852, 220), (6853, 6857, 230), (6858, 6858, 220),
    (6859, 6862, 230), (6964, 6964, 7), (6980, 6980, 9), (7019, 7019, 230), (7020, 7020, 220),
    (7021, 7027, 230), (7082, 7083, 9), (7142, 7142, 7), (7154, 7155, 9), (7223, 7223, 7),
    (7376, 7378, 230), (7380, 7380, 1), (7381, 7385, 220), (7386, 7387, 230), (7388, 7391, 220),
    (7392, 7392, 230), (7394, 7400, 1), (7405, 7405, 220), (7412, 7412, 230), (7416, 7417, 230),
    (7616, 7617, 230), (7618, 7618, 220), (7619, 7625, 230), (7626, 7626, 220), (7627, 7628, 230),
    (7629, 7629, 234), (7630, 7630, 214), (7631, 7631, 220), (7632, 7632, 202), (7633, 7669, 230),
    (7670, 7670, 232), (7671, 7672, 228), (7673, 7673, 220), (7674, 7674, 218), (7675, 7675, 230),
    (7676, 7676, 233), (7677, 7677, 220), (7678, 7678, 230), (7679, 7679, 220), (8400, 8401, 230),
    (8402, 8403, 1), (8404, 8407, 230), (8408, 8410, 1), (8411, 8412, 230), (8417, 8417, 230),
    (8421, 8422, 1), (8423, 8423, 230), (8424, 8424, 220), (8425, 8425, 230), (8426, 8427, 1),
    (8428, 8431, 220), (8432, 8432, 230), (11503, 11505, 230), (11647, 11647, 9),
    (11744, 11775, 230), (12330, 12330, 218), (12331, 12331, 228), (12332, 12332, 232),
    (12333, 12333, 222), (12334, 12335, 224), (12441, 12442, 8), (42607, 42607, 230),
    (42612, 42621, 230), (42654, 42655, 230), (42736, 42737, 230), (43014, 43014, 9),
    (43052, 43052, 9), (43204, 43204, 9), (43232, 43249, 230), (43307, 43309, 220),
    (43347, 43347, 9), (43443, 43443, 7), (43456, 43456, 9), (43696, 43696, 230),
    (43698, 43699, 230), (43700, 43700, 220), (43703, 43704, 230), (43710, 43711, 230),
    (43713, 43713, 230), (43766, 43766, 9), (44013, 44013, 9), (64286, 64286, 26),
    (65056, 65062, 230), (65063, 65069, 220), (65070, 65071, 230), (66045, 66045, 220),
    (66272, 66272, 220), (66422, 66426, 230), (68109, 68109, 220), (68111, 68111, 230),
    (68152, 68152, 230), (68153, 68153, 1), (68154, 68154, 220), (68159, 68159, 9),
    (68325, 68325, 230), (68326, 68326, 220), (68900, 68903, 230), (69291, 69292, 230),
    (69446, 69447, 220), (69448, 69450, 230), (69451, 69451, 220), (69452, 69452, 230),
    (69453, 69456, 220), (69506, 69506, 230), (69507, 69507, 220), (69508, 69508, 230),
    (69509, 69509, 220), (69702, 69702, 9), (69744, 69744, 9), (69759, 69759, 9),
    (69817, 69817, 9), (69818, 69818, 7), (69888, 69890, 230), (69939, 69940, 9),
    (70003, 70003, 7), (70080, 70080, 9), (70090, 70090, 7), (70197, 70197, 9), (70198, 70198, 7),
    (70377, 70377, 7), (70378, 70378, 9), (70459, 70460, 7), (70477, 70477, 9),
    (70502, 70508, 230), (70512, 70516, 230), (70722, 70722, 9), (70726, 70726, 7),
    (70750, 70750, 230), (70850, 70850, 9), (70851, 70851, 7), (71103, 71103, 9),
    (71104, 71104, 7), (71231, 71231, 9), (71350, 71350, 9), (71351, 71351, 7), (71467, 71467, 9),
    (71737, 71737, 9), (71738, 71738, 7), (71997, 71998, 9), (72003, 72003, 7), (72160, 72160, 9),
    (72244, 72244, 9), (72263, 72263, 9), (72345, 72345, 9), (72767, 72767, 9), (73026, 73026, 7),
    (73028, 73029, 9), (73111, 73111, 9), (92912, 92916, 1), (92976, 92982, 230),
    (94192, 94193, 6), (113822, 113822, 1), (119141, 119142, 216), (119143, 119145, 1),
    (119149, 119149, 226), (119150, 119154, 216), (119163, 119170, 220), (119173, 119177, 230),
    (119178, 119179, 220), (119210, 119213, 230), (119362, 119364, 230), (122880, 122886, 230),
    (122888, 122904, 230), (122907, 122913, 230), (122915, 122916, 230), (122918, 122922, 230),
    (123184, 123190, 230), (123566, 123566, 230), (123628, 123631, 230), (125136, 125142, 220),
    (125252, 125257, 230), (125258, 125258, 7)]

end EntityMap.Text
