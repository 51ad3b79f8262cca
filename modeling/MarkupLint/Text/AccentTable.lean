/-!
Base letters.  A composed, ligated or stylised character stands for one or more
plain ones; the tables list both, marks left out.
-/
namespace MarkupLint.Text

/-- Code point boundaries of the combining marks. -/
def combiningBounds : List Nat :=
  [768, 847, 848, 880, 1155, 1160, 1425, 1470, 1471, 1472, 1473, 1475, 1476, 1478, 1479, 1480,
   1552, 1563, 1611, 1632, 1648, 1649, 1750, 1757, 1759, 1765, 1767, 1769, 1770, 1774, 1809, 1810,
   1840, 1867, 2027, 2036, 2045, 2046, 2070, 2074, 2075, 2084, 2085, 2088, 2089, 2094, 2137, 2140,
   2200, 2208, 2250, 2274, 2275, 2304, 2364, 2365, 2381, 2382, 2385, 2389, 2492, 2493, 2509, 2510,
   2558, 2559, 2620, 2621, 2637, 2638, 2748, 2749, 2765, 2766, 2876, 2877, 2893, 2894, 3021, 3022,
   3132, 3133, 3149, 3150, 3157, 3159, 3260, 3261, 3277, 3278, 3387, 3389, 3405, 3406, 3530, 3531,
   3640, 3643, 3656, 3660, 3768, 3771, 3784, 3788, 3864, 3866, 3893, 3894, 3895, 3896, 3897, 3898,
   3953, 3955, 3956, 3957, 3962, 3966, 3968, 3969, 3970, 3973, 3974, 3976, 4038, 4039, 4151, 4152,
   4153, 4155, 4237, 4238, 4957, 4960, 5908, 5910, 5940, 5941, 6098, 6099, 6109, 6110, 6313, 6314,
   6457, 6460, 6679, 6681, 6752, 6753, 6773, 6781, 6783, 6784, 6832, 6846, 6847, 6863, 6964, 6965,
   6980, 6981, 7019, 7028, 7082, 7084, 7142, 7143, 7154, 7156, 7223, 7224, 7376, 7379, 7380, 7393,
   7394, 7401, 7405, 7406, 7412, 7413, 7416, 7418, 7616, 7680, 8400, 8413, 8417, 8418, 8421, 8433,
   11503, 11506, 11647, 11648, 11744, 11776, 12330, 12336, 12441, 12443, 42607, 42608, 42612,
   42622, 42654, 42656, 42736, 42738, 43014, 43015, 43052, 43053, 43204, 43205, 43232, 43250,
   43307, 43310, 43347, 43348, 43443, 43444, 43456, 43457, 43696, 43697, 43698, 43701, 43703,
   43705, 43710, 43712, 43713, 43714, 43766, 43767, 44013, 44014, 64286, 64287, 65056, 65072,
   66045, 66046, 66272, 66273, 66422, 66427, 68109, 68110, 68111, 68112, 68152, 68155, 68159,
   68160, 68325, 68327, 68900, 68904, 69291, 69293, 69446, 69457, 69506, 69510, 69702, 69703,
   69744, 69745, 69759, 69760, 69817, 69819, 69888, 69891, 69939, 69941, 70003, 70004, 70080,
   70081, 70090, 70091, 70197, 70199, 70377, 70379, 70459, 70461, 70477, 70478, 70502, 70509,
   70512, 70517, 70722, 70723, 70726, 70727, 70750, 70751, 70850, 70852, 71103, 71105, 71231,
   71232, 71350, 71352, 71467, 71468, 71737, 71739, 71997, 71999, 72003, 72004, 72160, 72161,
   72244, 72245, 72263, 72264, 72345, 72346, 72767, 72768, 73026, 73027, 73028, 73030, 73111,
   73112, 92912, 92917, 92976, 92983, 94192, 94194, 113822, 113823, 119141, 119146, 119149,
   119155, 119163, 119171, 119173, 119180, 119210, 119214, 119362, 119365, 122880, 122887, 122888,
   122905, 122907, 122914, 122915, 122917, 122918, 122923, 123184, 123191, 123566, 123567, 123628,
   123632, 125136, 125143, 125252, 125259]

/-- Pairs of a character and its one base character. -/
def singleBases : List String :=
   ["\u00a0 ¨ ªa¯ ²2³3´ µμ¸ ¹1ºoÀAÁAÂAÃAÄAÅAÇCÈEÉEÊEËEÌIÍIÎIÏIÑNÒOÓOÔOÕOÖOÙUÚUÛUÜUÝYàaáaâaãa",
    "äaåaçcèeéeêeëeìiíiîiïiñnòoóoôoõoöoùuúuûuüuýyÿyĀAāaĂAăaĄAąaĆCćcĈCĉcĊCċcČCčcĎDďdĒEēeĔEĕeĖE",
    "ėeĘEęeĚEěeĜGĝgĞGğgĠGġgĢGģgĤHĥhĨIĩiĪIīiĬIĭiĮIįiİIĴJĵjĶKķkĹLĺlĻLļlĽLľlŃNńnŅNņnŇNňnŌOōoŎOŏo",
    "ŐOőoŔRŕrŖRŗrŘRřrŚSśsŜSŝsŞSşsŠSšsŢTţtŤTťtŨUũuŪUūuŬUŭuŮUůuŰUűuŲUųuŴWŵwŶYŷyŸYŹZźzŻZżzŽZžzſs",
    "ƠOơoƯUưuǍAǎaǏIǐiǑOǒoǓUǔuǕUǖuǗUǘuǙUǚuǛUǜuǞAǟaǠAǡaǢÆǣæǦGǧgǨKǩkǪOǫoǬOǭoǮƷǯʒǰjǴGǵgǸNǹnǺAǻaǼÆ",
    "ǽæǾØǿøȀAȁaȂAȃaȄEȅeȆEȇeȈIȉiȊIȋiȌOȍoȎOȏoȐRȑrȒRȓrȔUȕuȖUȗuȘSșsȚTțtȞHȟhȦAȧaȨEȩeȪOȫoȬOȭoȮOȯoȰO",
    "ȱoȲYȳyʰhʱɦʲjʳrʴɹʵɻʶʁʷwʸy˘ ˙ ˚ ˛ ˜ ˝ ˠɣˡlˢsˣxˤʕʹʹͺ ;;΄ ΅ ΆΑ··ΈΕΉΗΊΙΌΟΎΥΏΩΐιΪΙΫΥάαέεήηίιΰυ",
    "ϊιϋυόούυώωϐβϑθϒΥϓΥϔΥϕφϖπϰκϱρϲςϴΘϵεϹΣЀЕЁЕЃГЇІЌКЍИЎУЙИйиѐеёеѓгїіќкѝиўуѶѴѷѵӁЖӂжӐАӑаӒАӓаӖЕӗе",
    "ӚӘӛәӜЖӝжӞЗӟзӢИӣиӤИӥиӦОӧоӪӨӫөӬЭӭэӮУӯуӰУӱуӲУӳуӴЧӵчӸЫӹыآاأاؤوإائيۀەۂہۓےऩनऱरऴळक़कख़खग़गज़जड़डढ़ढफ़फ",
    "य़यড়ডঢ়ঢয়যਲ਼ਲਸ਼ਸਖ਼ਖਗ਼ਗਜ਼ਜਫ਼ਫଡ଼ଡଢ଼ଢ\u0c48\u0c46\u0dda\u0dd9༌་\u0f76\u0fb2\u0f77\u0fb2\u0f78\u0fb3",
    "\u0f79\u0fb3ჼნᴬAᴭÆᴮBᴰDᴱEᴲƎᴳGᴴHᴵIᴶJᴷKᴸLᴹMᴺNᴼOᴽȢᴾPᴿRᵀTᵁUᵂWᵃaᵄɐᵅɑᵆᴂᵇbᵈdᵉeᵊəᵋɛᵌɜᵍgᵏkᵐmᵑŋᵒoᵓɔ",
    "ᵔᴖᵕᴗᵖpᵗtᵘuᵙᴝᵚɯᵛvᵜᴥᵝβᵞγᵟδᵠφᵡχᵢiᵣrᵤuᵥvᵦβᵧγᵨρᵩφᵪχᵸнᶛɒᶜcᶝɕᶞðᶟɜᶠfᶡɟᶢɡᶣɥᶤɨᶥɩᶦɪᶧᵻᶨʝᶩɭᶪᶅᶫʟᶬɱᶭɰᶮɲ",
    "ᶯɳᶰɴᶱɵᶲɸᶳʂᶴʃᶵƫᶶʉᶷʊᶸᴜᶹʋᶺʌᶻzᶼʐᶽʑᶾʒᶿθḀAḁaḂBḃbḄBḅbḆBḇbḈCḉcḊDḋdḌDḍdḎDḏdḐDḑdḒDḓdḔEḕeḖEḗeḘEḙeḚE",
    "ḛeḜEḝeḞFḟfḠGḡgḢHḣhḤHḥhḦHḧhḨHḩhḪHḫhḬIḭiḮIḯiḰKḱkḲKḳkḴKḵkḶLḷlḸLḹlḺLḻlḼLḽlḾMḿmṀMṁmṂMṃmṄNṅnṆN",
    "ṇnṈNṉnṊNṋnṌOṍoṎOṏoṐOṑoṒOṓoṔPṕpṖPṗpṘRṙrṚRṛrṜRṝrṞRṟrṠSṡsṢSṣsṤSṥsṦSṧsṨSṩsṪTṫtṬTṭtṮTṯtṰTṱtṲU",
    "ṳuṴUṵuṶUṷuṸUṹuṺUṻuṼVṽvṾVṿvẀWẁwẂWẃwẄWẅwẆWẇwẈWẉwẊXẋxẌXẍxẎYẏyẐZẑzẒZẓzẔZẕzẖhẗtẘwẙyẛsẠAạaẢAảa",
    "ẤAấaẦAầaẨAẩaẪAẫaẬAậaẮAắaẰAằaẲAẳaẴAẵaẶAặaẸEẹeẺEẻeẼEẽeẾEếeỀEềeỂEểeỄEễeỆEệeỈIỉiỊIịiỌOọoỎOỏo",
    "ỐOốoỒOồoỔOổoỖOỗoỘOộoỚOớoỜOờoỞOởoỠOỡoỢOợoỤUụuỦUủuỨUứuỪUừuỬUửuỮUữuỰUựuỲYỳyỴYỵyỶYỷyỸYỹyἀαἁα",
    "ἂαἃαἄαἅαἆαἇαἈΑἉΑἊΑἋΑἌΑἍΑἎΑἏΑἐεἑεἒεἓεἔεἕεἘΕἙΕἚΕἛΕἜΕἝΕἠηἡηἢηἣηἤηἥηἦηἧηἨΗἩΗἪΗἫΗἬΗἭΗἮΗἯΗἰιἱι",
    "ἲιἳιἴιἵιἶιἷιἸΙἹΙἺΙἻΙἼΙἽΙἾΙἿΙὀοὁοὂοὃοὄοὅοὈΟὉΟὊΟὋΟὌΟὍΟὐυὑυὒυὓυὔυὕυὖυὗυὙΥὛΥὝΥὟΥὠωὡωὢωὣωὤωὥω",
    "ὦωὧωὨΩὩΩὪΩὫΩὬΩὭΩὮΩὯΩὰαάαὲεέεὴηήηὶιίιὸοόοὺυύυὼωώωᾀαᾁαᾂαᾃαᾄαᾅαᾆαᾇαᾈΑᾉΑᾊΑᾋΑᾌΑᾍΑᾎΑᾏΑᾐηᾑηᾒηᾓη",
    "ᾔηᾕηᾖηᾗηᾘΗᾙΗᾚΗᾛΗᾜΗᾝΗᾞΗᾟΗᾠωᾡωᾢωᾣωᾤωᾥωᾦωᾧωᾨΩᾩΩᾪΩᾫΩᾬΩᾭΩᾮΩᾯΩᾰαᾱαᾲαᾳαᾴαᾶαᾷαᾸΑᾹΑᾺΑΆΑᾼΑ᾽ ιι᾿ ῀ ",
    "῁ ῂηῃηῄηῆηῇηῈΕΈΕῊΗΉΗῌΗ῍ ῎ ῏ ῐιῑιῒιΐιῖιῗιῘΙῙΙῚΙΊΙ῝ ῞ ῟ ῠυῡυῢυΰυῤρῥρῦυῧυῨΥῩΥῪΥΎΥῬΡ῭ ΅ ``ῲω",
    "ῳωῴωῶωῷωῸΟΌΟῺΩΏΩῼΩ´ ῾ \u2000 \u2001 \u2002 \u2003 \u2004 \u2005 \u2006 \u2007 \u2008 ",
    "\u2009 \u200a ‑‐‗ ․.\u202f ‾ \u205f ⁰0ⁱi⁴4⁵5⁶6⁷7⁸8⁹9⁺+⁻−⁼=⁽(⁾)ⁿn₀0₁1₂2₃3₄4₅5₆6₇7₈8₉9₊+₋−",
    "₌=₍(₎)ₐaₑeₒoₓxₔəₕhₖkₗlₘmₙnₚpₛsₜtℂCℇƐℊgℋHℌHℍHℎhℏħℐIℑIℒLℓlℕNℙPℚQℛRℜRℝRℤZΩΩℨZKKÅAℬBℭCℯeℰEℱF",
    "ℳMℴoℵאℶבℷגℸדℹiℼπℽγℾΓℿΠ⅀∑ⅅDⅆdⅇeⅈiⅉjⅠIⅤVⅩXⅬLⅭCⅮDⅯMⅰiⅴvⅹxⅼlⅽcⅾdⅿm↚←↛→↮↔⇍⇐⇎⇔⇏⇒∄∃∉∈∌∋∤∣∦∥≁∼≄≃",
    "≇≅≉≈≠=≢≡≭≍≮<≯>≰≤≱≥≴≲≵≳≸≶≹≷⊀≺⊁≻⊄⊂⊅⊃⊈⊆⊉⊇⊬⊢⊭⊨⊮⊩⊯⊫⋠≼⋡≽⋢⊑⋣⊒⋪⊲⋫⊳⋬⊴⋭⊵〈〈〉〉①1②2③3④4⑤5⑥6⑦7⑧8⑨9ⒶAⒷB",
    "ⒸCⒹDⒺEⒻFⒼGⒽHⒾIⒿJⓀKⓁLⓂMⓃNⓄOⓅPⓆQⓇRⓈSⓉTⓊUⓋVⓌWⓍXⓎYⓏZⓐaⓑbⓒcⓓdⓔeⓕfⓖgⓗhⓘiⓙjⓚkⓛlⓜmⓝnⓞoⓟpⓠqⓡrⓢsⓣt",
    "ⓤuⓥvⓦwⓧxⓨyⓩz⓪0⫝̸⫝ⱼjⱽVⵯⵡ⺟母⻳龟⼀一⼁丨⼂丶⼃丿⼄乙⼅亅⼆二⼇亠⼈人⼉儿⼊入⼋八⼌冂⼍冖⼎冫⼏几⼐凵⼑刀⼒力⼓勹⼔匕⼕匚⼖匸⼗十⼘卜⼙卩⼚厂⼛厶⼜又⼝口⼞囗",
    "⼟土⼠士⼡夂⼢夊⼣夕⼤大⼥女⼦子⼧宀⼨寸⼩小⼪尢⼫尸⼬屮⼭山⼮巛⼯工⼰己⼱巾⼲干⼳幺⼴广⼵廴⼶廾⼷弋⼸弓⼹彐⼺彡⼻彳⼼心⼽戈⼾戶⼿手⽀支⽁攴⽂文⽃斗⽄斤⽅方⽆无⽇日⽈曰⽉月⽊木",
    "⽋欠⽌止⽍歹⽎殳⽏毋⽐比⽑毛⽒氏⽓气⽔水⽕火⽖爪⽗父⽘爻⽙爿⽚片⽛牙⽜牛⽝犬⽞玄⽟玉⽠瓜⽡瓦⽢甘⽣生⽤用⽥田⽦疋⽧疒⽨癶⽩白⽪皮⽫皿⽬目⽭矛⽮矢⽯石⽰示⽱禸⽲禾⽳穴⽴立⽵竹⽶米",
    "⽷糸⽸缶⽹网⽺羊⽻羽⽼老⽽而⽾耒⽿耳⾀聿⾁肉⾂臣⾃自⾄至⾅臼⾆舌⾇舛⾈舟⾉艮⾊色⾋艸⾌虍⾍虫⾎血⾏行⾐衣⾑襾⾒見⾓角⾔言⾕谷⾖豆⾗豕⾘豸⾙貝⾚赤⾛走⾜足⾝身⾞車⾟辛⾠辰⾡辵⾢邑",
    "⾣酉⾤釆⾥里⾦金⾧長⾨門⾩阜⾪隶⾫隹⾬雨⾭靑⾮非⾯面⾰革⾱韋⾲韭⾳音⾴頁⾵風⾶飛⾷食⾸首⾹香⾺馬⾻骨⾼高⾽髟⾾鬥⾿鬯⿀鬲⿁鬼⿂魚⿃鳥⿄鹵⿅鹿⿆麥⿇麻⿈黃⿉黍⿊黑⿋黹⿌黽⿍鼎⿎鼓",
    "⿏鼠⿐鼻⿑齊⿒齒⿓龍⿔龜⿕龠\u3000 〶〒〸十〹卄〺卅がかぎきぐくげけごこざさじしずすぜせぞそだたぢちづつでてどとばはぱはびひぴひぶふぷふべへぺへぼほぽほゔう゛ ゜ ゞゝ",
    "ガカギキグクゲケゴコザサジシズスゼセゾソダタヂチヅツデテドトバハパハビヒピヒブフプフベヘペヘボホポホヴウヷワヸヰヹヱヺヲヾヽㄱᄀㄲᄁㄳᆪㄴᄂㄵᆬㄶᆭㄷᄃㄸᄄㄹᄅㄺᆰㄻᆱㄼᆲㄽᆳ",
    "ㄾᆴㄿᆵㅀᄚㅁᄆㅂᄇㅃᄈㅄᄡㅅᄉㅆᄊㅇᄋㅈᄌㅉᄍㅊᄎㅋᄏㅌᄐㅍᄑㅎᄒㅏᅡㅐᅢㅑᅣㅒᅤㅓᅥㅔᅦㅕᅧㅖᅨㅗᅩㅘᅪㅙᅫㅚᅬㅛᅭㅜᅮㅝᅯㅞᅰㅟᅱㅠᅲㅡᅳㅢᅴㅣᅵㅤᅠㅥᄔㅦᄕㅧᇇㅨᇈㅩᇌ",
    "ㅪᇎㅫᇓㅬᇗㅭᇙㅮᄜㅯᇝㅰᇟㅱᄝㅲᄞㅳᄠㅴᄢㅵᄣㅶᄧㅷᄩㅸᄫㅹᄬㅺᄭㅻᄮㅼᄯㅽᄲㅾᄶㅿᅀㆀᅇㆁᅌㆂᇱㆃᇲㆄᅗㆅᅘㆆᅙㆇᆄㆈᆅㆉᆈㆊᆑㆋᆒㆌᆔㆍᆞㆎᆡ㆒一㆓二㆔三㆕四㆖上㆗中㆘下",
    "㆙甲㆚乙㆛丙㆜丁㆝天㆞地㆟人㉄問㉅幼㉆文㉇箏㉠ᄀ㉡ᄂ㉢ᄃ㉣ᄅ㉤ᄆ㉥ᄇ㉦ᄉ㉧ᄋ㉨ᄌ㉩ᄎ㉪ᄏ㉫ᄐ㉬ᄑ㉭ᄒ㊀一㊁二㊂三㊃四㊄五㊅六㊆七㊇八㊈九㊉十㊊月㊋火㊌水㊍木㊎金㊏土㊐日㊑株㊒有",
    "㊓社㊔名㊕特㊖財㊗祝㊘労㊙秘㊚男㊛女㊜適㊝優㊞印㊟注㊠項㊡休㊢写㊣正㊤上㊥中㊦下㊧左㊨右㊩医㊪宗㊫学㊬監㊭企㊮資㊯協㊰夜㋐ア㋑イ㋒ウ㋓エ㋔オ㋕カ㋖キ㋗ク㋘ケ㋙コ㋚サ㋛シ㋜ス㋝セ",
    "㋞ソ㋟タ㋠チ㋡ツ㋢テ㋣ト㋤ナ㋥ニ㋦ヌ㋧ネ㋨ノ㋩ハ㋪ヒ㋫フ㋬ヘ㋭ホ㋮マ㋯ミ㋰ム㋱メ㋲モ㋳ヤ㋴ユ㋵ヨ㋶ラ㋷リ㋸ル㋹レ㋺ロ㋻ワ㋼ヰ㋽ヱ㋾ヲꚜъꚝьꝰꝯꟲCꟳFꟴQꟸĦꟹœꭜꜧꭝꬷꭞɫ",
    "ꭟꭒꭩʍ豈豈更更車車賈賈滑滑串串句句龜龜龜龜契契金金喇喇奈奈懶懶癩癩羅羅蘿蘿螺螺裸裸邏邏樂樂洛洛烙烙珞珞落落酪酪駱駱亂亂卵卵欄欄爛爛蘭蘭鸞鸞嵐嵐濫濫藍藍襤襤拉拉臘臘蠟蠟廊廊朗朗",
    "浪浪狼狼郎郎來來冷冷勞勞擄擄櫓櫓爐爐盧盧老老蘆蘆虜虜路路露露魯魯鷺鷺碌碌祿祿綠綠菉菉錄錄鹿鹿論論壟壟弄弄籠籠聾聾牢牢磊磊賂賂雷雷壘壘屢屢樓樓淚淚漏漏累累縷縷陋陋勒勒肋肋凜凜凌凌",
    "稜稜綾綾菱菱陵陵讀讀拏拏樂樂諾諾丹丹寧寧怒怒率率異異北北磻磻便便復復不不泌泌數數索索參參塞塞省省葉葉說說殺殺辰辰沈沈拾拾若若掠掠略略亮亮兩兩凉凉梁梁糧糧良良諒諒量量勵勵呂呂女女",
    "廬廬旅旅濾濾礪礪閭閭驪驪麗麗黎黎力力曆曆歷歷轢轢年年憐憐戀戀撚撚漣漣煉煉璉璉秊秊練練聯聯輦輦蓮蓮連連鍊鍊列列劣劣咽咽烈烈裂裂說說廉廉念念捻捻殮殮簾簾獵獵令令囹囹寧寧嶺嶺怜怜玲玲",
    "瑩瑩羚羚聆聆鈴鈴零零靈靈領領例例禮禮醴醴隸隸惡惡了了僚僚寮寮尿尿料料樂樂燎燎療療蓼蓼遼遼龍龍暈暈阮阮劉劉杻杻柳柳流流溜溜琉琉留留硫硫紐紐類類六六戮戮陸陸倫倫崙崙淪淪輪輪律律慄慄",
    "栗栗率率隆隆利利吏吏履履易易李李梨梨泥泥理理痢痢罹罹裏裏裡裡里里離離匿匿溺溺吝吝燐燐璘璘藺藺隣隣鱗鱗麟麟林林淋淋臨臨立立笠笠粒粒狀狀炙炙識識什什茶茶刺刺切切度度拓拓糖糖宅宅洞洞",
    "暴暴輻輻行行降降見見廓廓兀兀嗀嗀塚塚晴晴凞凞猪猪益益礼礼神神祥祥福福靖靖精精羽羽蘒蘒諸諸逸逸都都飯飯飼飼館館鶴鶴郞郞隷隷侮侮僧僧免免勉勉勤勤卑卑喝喝嘆嘆器器塀塀墨墨層層屮屮悔悔",
    "慨慨憎憎懲懲敏敏既既暑暑梅梅海海渚渚漢漢煮煮爫爫琢琢碑碑社社祉祉祈祈祐祐祖祖祝祝禍禍禎禎穀穀突突節節練練縉縉繁繁署署者者臭臭艹艹艹艹著著褐褐視視謁謁謹謹賓賓贈贈辶辶逸逸難難響響",
    "頻頻恵恵𤋮𤋮舘舘並並况况全全侀侀充充冀冀勇勇勺勺喝喝啕啕喙喙嗢嗢塚塚墳墳奄奄奔奔婢婢嬨嬨廒廒廙廙彩彩徭徭惘惘慎慎愈愈憎憎慠慠懲懲戴戴揄揄搜搜摒摒敖敖晴晴朗朗望望杖杖歹歹殺殺流流",
    "滛滛滋滋漢漢瀞瀞煮煮瞧瞧爵爵犯犯猪猪瑱瑱甆甆画画瘝瘝瘟瘟益益盛盛直直睊睊着着磌磌窱窱節節类类絛絛練練缾缾者者荒荒華華蝹蝹襁襁覆覆視視調調諸諸請請謁謁諾諾諭諭謹謹變變贈贈輸輸遲遲",
    "醙醙鉶鉶陼陼難難靖靖韛韛響響頋頋頻頻鬒鬒龜龜𢡊𢡊𢡄𢡄𣏕𣏕㮝㮝䀘䀘䀹䀹𥉉𥉉𥳐𥳐𧻓𧻓齃齃龎龎יִיײַײﬠעﬡאﬢדﬣהﬤכﬥלﬦםﬧרﬨת﬩+שׁששׂששּׁששּׂשאַאאָאאּאבּבגּגדּד",
    "הּהוּוזּזטּטיּיךּךכּכלּלמּמנּנסּסףּףפּפצּצקּקרּרשּשתּתוֹובֿבכֿכפֿפﭐٱﭑٱﭒٻﭓٻﭔٻﭕٻﭖپﭗپﭘپﭙپﭚڀﭛڀﭜڀﭝڀﭞٺﭟٺﭠٺﭡٺﭢٿﭣٿﭤٿﭥٿ",
    "ﭦٹﭧٹﭨٹﭩٹﭪڤﭫڤﭬڤﭭڤﭮڦﭯڦﭰڦﭱڦﭲڄﭳڄﭴڄﭵڄﭶڃﭷڃﭸڃﭹڃﭺچﭻچﭼچﭽچﭾڇﭿڇﮀڇﮁڇﮂڍﮃڍﮄڌﮅڌﮆڎﮇڎﮈڈﮉڈﮊژﮋژﮌڑﮍڑﮎکﮏکﮐکﮑک",
    "ﮒگﮓگﮔگﮕگﮖڳﮗڳﮘڳﮙڳﮚڱﮛڱﮜڱﮝڱﮞںﮟںﮠڻﮡڻﮢڻﮣڻﮤەﮥەﮦہﮧہﮨہﮩہﮪھﮫھﮬھﮭھﮮےﮯےﮰےﮱےﯓڭﯔڭﯕڭﯖڭﯗۇﯘۇﯙۆﯚۆﯛۈﯜۈﯞۋﯟۋ",
    "ﯠۅﯡۅﯢۉﯣۉﯤېﯥېﯦېﯧېﯨىﯩىﯼیﯽیﯾیﯿیﱛذﱜرﱝىﱞ ﱟ ﱠ ﱡ ﱢ ﱣ ﲐىﳙهﳲـﳳـﳴـﴼاﴽا︐,︑、︒。︓:︔;︕!︖?︗〖︘〗︱—︲–︳_︴_︵(",
    "︶)︷\x7b︸\x7d︹〔︺〕︻【︼】︽《︾》︿〈﹀〉﹁「﹂」﹃『﹄』﹇[﹈]﹉ ﹊ ﹋ ﹌ ﹍_﹎_﹏_﹐,﹑、﹒.﹔;﹕:﹖?﹗!﹘—﹙(﹚)﹛\x7b﹜\x7d﹝〔﹞〕",
    "﹟#﹠&﹡*﹢+﹣-﹤<﹥>﹦=﹨\\﹩$﹪%﹫@ﹰ ﹱـﹲ ﹴ ﹶ ﹷـﹸ ﹹـﹺ ﹻـﹼ ﹽـﹾ ﹿـﺀءﺁاﺂاﺃاﺄاﺅوﺆوﺇاﺈاﺉيﺊيﺋيﺌيﺍاﺎاﺏبﺐب",
    "ﺑبﺒبﺓةﺔةﺕتﺖتﺗتﺘتﺙثﺚثﺛثﺜثﺝجﺞجﺟجﺠجﺡحﺢحﺣحﺤحﺥخﺦخﺧخﺨخﺩدﺪدﺫذﺬذﺭرﺮرﺯزﺰزﺱسﺲسﺳسﺴسﺵشﺶشﺷشﺸشﺹصﺺصﺻصﺼص",
    "ﺽضﺾضﺿضﻀضﻁطﻂطﻃطﻄطﻅظﻆظﻇظﻈظﻉعﻊعﻋعﻌعﻍغﻎغﻏغﻐغﻑفﻒفﻓفﻔفﻕقﻖقﻗقﻘقﻙكﻚكﻛكﻜكﻝلﻞلﻟلﻠلﻡمﻢمﻣمﻤمﻥنﻦنﻧنﻨن",
    "ﻩهﻪهﻫهﻬهﻭوﻮوﻯىﻰىﻱيﻲيﻳيﻴي！!＂\"＃#＄$％%＆&＇'（(）)＊*＋+，,－-．.／/０0１1２2３3４4５5６6７7８8９9：:；;＜<＝=＞>？?",
    "＠@ＡAＢBＣCＤDＥEＦFＧGＨHＩIＪJＫKＬLＭMＮNＯOＰPＱQＲRＳSＴTＵUＶVＷWＸXＹYＺZ［[＼\\］]＾^＿_｀`ａaｂbｃcｄdｅeｆfｇgｈhｉiｊj",
    "ｋkｌlｍmｎnｏoｐpｑqｒrｓsｔtｕuｖvｗwｘxｙyｚz｛\x7b｜|｝\x7d～~｟⦅｠⦆｡。｢「｣」､、･・ｦヲｧァｨィｩゥｪェｫォｬャｭュｮョｯッｰーｱアｲイｳウ",
    "ｴエｵオｶカｷキｸクｹケｺコｻサｼシｽスｾセｿソﾀタﾁチﾂツﾃテﾄトﾅナﾆニﾇヌﾈネﾉノﾊハﾋヒﾌフﾍヘﾎホﾏマﾐミﾑムﾒメﾓモﾔヤﾕユﾖヨﾗラﾘリﾙルﾚレﾛロﾜワﾝンﾠᅠﾡᄀ",
    "ﾢᄁﾣᆪﾤᄂﾥᆬﾦᆭﾧᄃﾨᄄﾩᄅﾪᆰﾫᆱﾬᆲﾭᆳﾮᆴﾯᆵﾰᄚﾱᄆﾲᄇﾳᄈﾴᄡﾵᄉﾶᄊﾷᄋﾸᄌﾹᄍﾺᄎﾻᄏﾼᄐﾽᄑﾾᄒￂᅡￃᅢￄᅣￅᅤￆᅥￇᅦￊᅧￋᅨￌᅩￍᅪￎᅫￏᅬￒᅭￓᅮￔᅯ",
    "ￕᅰￖᅱￗᅲￚᅳￛᅴￜᅵ￠¢￡£￢¬￣ ￤¦￥¥￦₩￨│￩←￪↑￫→￬↓￭■￮○𐞁ː𐞂ˑ𐞃æ𐞄ʙ𐞅ɓ𐞇ʣ𐞈ꭦ𐞉ʥ𐞊ʤ𐞋ɖ𐞌ɗ𐞍ᶑ𐞎ɘ𐞏ɞ𐞐ʩ𐞑ɤ𐞒ɢ𐞓ɠ𐞔ʛ𐞕ħ𐞖ʜ𐞗ɧ𐞘ʄ𐞙ʪ",
    "𐞚ʫ𐞛ɬ𐞜𝼄𐞝ꞎ𐞞ɮ𐞟𝼅𐞠ʎ𐞡𝼆𐞢ø𐞣ɶ𐞤ɷ𐞥q𐞦ɺ𐞧𝼈𐞨ɽ𐞩ɾ𐞪ʀ𐞫ʨ𐞬ʦ𐞭ꭧ𐞮ʧ𐞯ʈ𐞰ⱱ𐞲ʏ𐞳ʡ𐞴ʢ𐞵ʘ𐞶ǀ𐞷ǁ𐞸ǂ𐞹𝼊𐞺𝼞𑂚𑂙𑂜𑂛𑂫𑂥𝅗𝅥𝅗𝅘𝅥𝅘𝅘𝅥𝅮𝅘𝅘𝅥𝅯𝅘𝅘𝅥𝅰𝅘𝅘𝅥𝅱𝅘𝅘𝅥𝅲𝅘𝆹𝅥𝆹𝆺𝅥𝆺",
    "𝆹𝅥𝅮𝆹𝆺𝅥𝅮𝆺𝆹𝅥𝅯𝆹𝆺𝅥𝅯𝆺𝐀A𝐁B𝐂C𝐃D𝐄E𝐅F𝐆G𝐇H𝐈I𝐉J𝐊K𝐋L𝐌M𝐍N𝐎O𝐏P𝐐Q𝐑R𝐒S𝐓T𝐔U𝐕V𝐖W𝐗X𝐘Y𝐙Z𝐚a𝐛b𝐜c𝐝d𝐞e𝐟f𝐠g𝐡h𝐢i𝐣j𝐤k𝐥l𝐦m𝐧n",
    "𝐨o𝐩p𝐪q𝐫r𝐬s𝐭t𝐮u𝐯v𝐰w𝐱x𝐲y𝐳z𝐴A𝐵B𝐶C𝐷D𝐸E𝐹F𝐺G𝐻H𝐼I𝐽J𝐾K𝐿L𝑀M𝑁N𝑂O𝑃P𝑄Q𝑅R𝑆S𝑇T𝑈U𝑉V𝑊W𝑋X𝑌Y𝑍Z𝑎a𝑏b𝑐c𝑑d𝑒e𝑓f",
    "𝑔g𝑖i𝑗j𝑘k𝑙l𝑚m𝑛n𝑜o𝑝p𝑞q𝑟r𝑠s𝑡t𝑢u𝑣v𝑤w𝑥x𝑦y𝑧z𝑨A𝑩B𝑪C𝑫D𝑬E𝑭F𝑮G𝑯H𝑰I𝑱J𝑲K𝑳L𝑴M𝑵N𝑶O𝑷P𝑸Q𝑹R𝑺S𝑻T𝑼U𝑽V𝑾W𝑿X𝒀Y",
    "𝒁Z𝒂a𝒃b𝒄c𝒅d𝒆e𝒇f𝒈g𝒉h𝒊i𝒋j𝒌k𝒍l𝒎m𝒏n𝒐o𝒑p𝒒q𝒓r𝒔s𝒕t𝒖u𝒗v𝒘w𝒙x𝒚y𝒛z𝒜A𝒞C𝒟D𝒢G𝒥J𝒦K𝒩N𝒪O𝒫P𝒬Q𝒮S𝒯T𝒰U𝒱V𝒲W𝒳X𝒴Y",
    "𝒵Z𝒶a𝒷b𝒸c𝒹d𝒻f𝒽h𝒾i𝒿j𝓀k𝓁l𝓂m𝓃n𝓅p𝓆q𝓇r𝓈s𝓉t𝓊u𝓋v𝓌w𝓍x𝓎y𝓏z𝓐A𝓑B𝓒C𝓓D𝓔E𝓕F𝓖G𝓗H𝓘I𝓙J𝓚K𝓛L𝓜M𝓝N𝓞O𝓟P𝓠Q𝓡R𝓢S𝓣T",
    "𝓤U𝓥V𝓦W𝓧X𝓨Y𝓩Z𝓪a𝓫b𝓬c𝓭d𝓮e𝓯f𝓰g𝓱h𝓲i𝓳j𝓴k𝓵l𝓶m𝓷n𝓸o𝓹p𝓺q𝓻r𝓼s𝓽t𝓾u𝓿v𝔀w𝔁x𝔂y𝔃z𝔄A𝔅B𝔇D𝔈E𝔉F𝔊G𝔍J𝔎K𝔏L𝔐M𝔑N𝔒O",
    "𝔓P𝔔Q𝔖S𝔗T𝔘U𝔙V𝔚W𝔛X𝔜Y𝔞a𝔟b𝔠c𝔡d𝔢e𝔣f𝔤g𝔥h𝔦i𝔧j𝔨k𝔩l𝔪m𝔫n𝔬o𝔭p𝔮q𝔯r𝔰s𝔱t𝔲u𝔳v𝔴w𝔵x𝔶y𝔷z𝔸A𝔹B𝔻D𝔼E𝔽F𝔾G𝕀I𝕁J𝕂K",
    "𝕃L𝕄M𝕆O𝕊S𝕋T𝕌U𝕍V𝕎W𝕏X𝕐Y𝕒a𝕓b𝕔c𝕕d𝕖e𝕗f𝕘g𝕙h𝕚i𝕛j𝕜k𝕝l𝕞m𝕟n𝕠o𝕡p𝕢q𝕣r𝕤s𝕥t𝕦u𝕧v𝕨w𝕩x𝕪y𝕫z𝕬A𝕭B𝕮C𝕯D𝕰E𝕱F𝕲G𝕳H",
    "𝕴I𝕵J𝕶K𝕷L𝕸M𝕹N𝕺O𝕻P𝕼Q𝕽R𝕾S𝕿T𝖀U𝖁V𝖂W𝖃X𝖄Y𝖅Z𝖆a𝖇b𝖈c𝖉d𝖊e𝖋f𝖌g𝖍h𝖎i𝖏j𝖐k𝖑l𝖒m𝖓n𝖔o𝖕p𝖖q𝖗r𝖘s𝖙t𝖚u𝖛v𝖜w𝖝x𝖞y𝖟z",
    "𝖠A𝖡B𝖢C𝖣D𝖤E𝖥F𝖦G𝖧H𝖨I𝖩J𝖪K𝖫L𝖬M𝖭N𝖮O𝖯P𝖰Q𝖱R𝖲S𝖳T𝖴U𝖵V𝖶W𝖷X𝖸Y𝖹Z𝖺a𝖻b𝖼c𝖽d𝖾e𝖿f𝗀g𝗁h𝗂i𝗃j𝗄k𝗅l𝗆m𝗇n𝗈o𝗉p𝗊q𝗋r",
    "𝗌s𝗍t𝗎u𝗏v𝗐w𝗑x𝗒y𝗓z𝗔A𝗕B𝗖C𝗗D𝗘E𝗙F𝗚G𝗛H𝗜I𝗝J𝗞K𝗟L𝗠M𝗡N𝗢O𝗣P𝗤Q𝗥R𝗦S𝗧T𝗨U𝗩V𝗪W𝗫X𝗬Y𝗭Z𝗮a𝗯b𝗰c𝗱d𝗲e𝗳f𝗴g𝗵h𝗶i𝗷j",
    "𝗸k𝗹l𝗺m𝗻n𝗼o𝗽p𝗾q𝗿r𝘀s𝘁t𝘂u𝘃v𝘄w𝘅x𝘆y𝘇z𝘈A𝘉B𝘊C𝘋D𝘌E𝘍F𝘎G𝘏H𝘐I𝘑J𝘒K𝘓L𝘔M𝘕N𝘖O𝘗P𝘘Q𝘙R𝘚S𝘛T𝘜U𝘝V𝘞W𝘟X𝘠Y𝘡Z𝘢a𝘣b",
    "𝘤c𝘥d𝘦e𝘧f𝘨g𝘩h𝘪i𝘫j𝘬k𝘭l𝘮m𝘯n𝘰o𝘱p𝘲q𝘳r𝘴s𝘵t𝘶u𝘷v𝘸w𝘹x𝘺y𝘻z𝘼A𝘽B𝘾C𝘿D𝙀E𝙁F𝙂G𝙃H𝙄I𝙅J𝙆K𝙇L𝙈M𝙉N𝙊O𝙋P𝙌Q𝙍R𝙎S𝙏T",
    "𝙐U𝙑V𝙒W𝙓X𝙔Y𝙕Z𝙖a𝙗b𝙘c𝙙d𝙚e𝙛f𝙜g𝙝h𝙞i𝙟j𝙠k𝙡l𝙢m𝙣n𝙤o𝙥p𝙦q𝙧r𝙨s𝙩t𝙪u𝙫v𝙬w𝙭x𝙮y𝙯z𝙰A𝙱B𝙲C𝙳D𝙴E𝙵F𝙶G𝙷H𝙸I𝙹J𝙺K𝙻L",
    "𝙼M𝙽N𝙾O𝙿P𝚀Q𝚁R𝚂S𝚃T𝚄U𝚅V𝚆W𝚇X𝚈Y𝚉Z𝚊a𝚋b𝚌c𝚍d𝚎e𝚏f𝚐g𝚑h𝚒i𝚓j𝚔k𝚕l𝚖m𝚗n𝚘o𝚙p𝚚q𝚛r𝚜s𝚝t𝚞u𝚟v𝚠w𝚡x𝚢y𝚣z𝚤ı𝚥ȷ𝚨Α𝚩Β",
    "𝚪Γ𝚫Δ𝚬Ε𝚭Ζ𝚮Η𝚯Θ𝚰Ι𝚱Κ𝚲Λ𝚳Μ𝚴Ν𝚵Ξ𝚶Ο𝚷Π𝚸Ρ𝚹Θ𝚺Σ𝚻Τ𝚼Υ𝚽Φ𝚾Χ𝚿Ψ𝛀Ω𝛁∇𝛂α𝛃β𝛄γ𝛅δ𝛆ε𝛇ζ𝛈η𝛉θ𝛊ι𝛋κ𝛌λ𝛍μ𝛎ν𝛏ξ𝛐ο𝛑π𝛒ρ𝛓ς𝛔σ𝛕τ",
    "𝛖υ𝛗φ𝛘χ𝛙ψ𝛚ω𝛛∂𝛜ε𝛝θ𝛞κ𝛟φ𝛠ρ𝛡π𝛢Α𝛣Β𝛤Γ𝛥Δ𝛦Ε𝛧Ζ𝛨Η𝛩Θ𝛪Ι𝛫Κ𝛬Λ𝛭Μ𝛮Ν𝛯Ξ𝛰Ο𝛱Π𝛲Ρ𝛳Θ𝛴Σ𝛵Τ𝛶Υ𝛷Φ𝛸Χ𝛹Ψ𝛺Ω𝛻∇𝛼α𝛽β𝛾γ𝛿δ𝜀ε𝜁ζ",
    "𝜂η𝜃θ𝜄ι𝜅κ𝜆λ𝜇μ𝜈ν𝜉ξ𝜊ο𝜋π𝜌ρ𝜍ς𝜎σ𝜏τ𝜐υ𝜑φ𝜒χ𝜓ψ𝜔ω𝜕∂𝜖ε𝜗θ𝜘κ𝜙φ𝜚ρ𝜛π𝜜Α𝜝Β𝜞Γ𝜟Δ𝜠Ε𝜡Ζ𝜢Η𝜣Θ𝜤Ι𝜥Κ𝜦Λ𝜧Μ𝜨Ν𝜩Ξ𝜪Ο𝜫Π𝜬Ρ𝜭Θ",
    "𝜮Σ𝜯Τ𝜰Υ𝜱Φ𝜲Χ𝜳Ψ𝜴Ω𝜵∇𝜶α𝜷β𝜸γ𝜹δ𝜺ε𝜻ζ𝜼η𝜽θ𝜾ι𝜿κ𝝀λ𝝁μ𝝂ν𝝃ξ𝝄ο𝝅π𝝆ρ𝝇ς𝝈σ𝝉τ𝝊υ𝝋φ𝝌χ𝝍ψ𝝎ω𝝏∂𝝐ε𝝑θ𝝒κ𝝓φ𝝔ρ𝝕π𝝖Α𝝗Β𝝘Γ𝝙Δ",
    "𝝚Ε𝝛Ζ𝝜Η𝝝Θ𝝞Ι𝝟Κ𝝠Λ𝝡Μ𝝢Ν𝝣Ξ𝝤Ο𝝥Π𝝦Ρ𝝧Θ𝝨Σ𝝩Τ𝝪Υ𝝫Φ𝝬Χ𝝭Ψ𝝮Ω𝝯∇𝝰α𝝱β𝝲γ𝝳δ𝝴ε𝝵ζ𝝶η𝝷θ𝝸ι𝝹κ𝝺λ𝝻μ𝝼ν𝝽ξ𝝾ο𝝿π𝞀ρ𝞁ς𝞂σ𝞃τ𝞄υ𝞅φ",
    "𝞆χ𝞇ψ𝞈ω𝞉∂𝞊ε𝞋θ𝞌κ𝞍φ𝞎ρ𝞏π𝞐Α𝞑Β𝞒Γ𝞓Δ𝞔Ε𝞕Ζ𝞖Η𝞗Θ𝞘Ι𝞙Κ𝞚Λ𝞛Μ𝞜Ν𝞝Ξ𝞞Ο𝞟Π𝞠Ρ𝞡Θ𝞢Σ𝞣Τ𝞤Υ𝞥Φ𝞦Χ𝞧Ψ𝞨Ω𝞩∇𝞪α𝞫β𝞬γ𝞭δ𝞮ε𝞯ζ𝞰η𝞱θ",
    "𝞲ι𝞳κ𝞴λ𝞵μ𝞶ν𝞷ξ𝞸ο𝞹π𝞺ρ𝞻ς𝞼σ𝞽τ𝞾υ𝞿φ𝟀χ𝟁ψ𝟂ω𝟃∂𝟄ε𝟅θ𝟆κ𝟇φ𝟈ρ𝟉π𝟊Ϝ𝟋ϝ𝟎0𝟏1𝟐2𝟑3𝟒4𝟓5𝟔6𝟕7𝟖8𝟗9𝟘0𝟙1𝟚2𝟛3𝟜4𝟝5𝟞6𝟟7",
    "𝟠8𝟡9𝟢0𝟣1𝟤2𝟥3𝟦4𝟧5𝟨6𝟩7𝟪8𝟫9𝟬0𝟭1𝟮2𝟯3𝟰4𝟱5𝟲6𝟳7𝟴8𝟵9𝟶0𝟷1𝟸2𝟹3𝟺4𝟻5𝟼6𝟽7𝟾8𝟿9𞸀ا𞸁ب𞸂ج𞸃د𞸅و𞸆ز𞸇ح𞸈ط𞸉ي𞸊ك𞸋ل𞸌م",
    "𞸍ن𞸎س𞸏ع𞸐ف𞸑ص𞸒ق𞸓ر𞸔ش𞸕ت𞸖ث𞸗خ𞸘ذ𞸙ض𞸚ظ𞸛غ𞸜ٮ𞸝ں𞸞ڡ𞸟ٯ𞸡ب𞸢ج𞸤ه𞸧ح𞸩ي𞸪ك𞸫ل𞸬م𞸭ن𞸮س𞸯ع𞸰ف𞸱ص𞸲ق𞸴ش𞸵ت𞸶ث𞸷خ𞸹ض𞸻غ𞹂ج𞹇ح𞹉ي𞹋ل𞹍ن",
    "𞹎س𞹏ع𞹑ص𞹒ق𞹔ش𞹗خ𞹙ض𞹛غ𞹝ں𞹟ٯ𞹡ب𞹢ج𞹤ه𞹧ح𞹨ط𞹩ي𞹪ك𞹬م𞹭ن𞹮س𞹯ع𞹰ف𞹱ص𞹲ق𞹴ش𞹵ت𞹶ث𞹷خ𞹹ض𞹺ظ𞹻غ𞹼ٮ𞹾ڡ𞺀ا𞺁ب𞺂ج𞺃د𞺄ه𞺅و𞺆ز𞺇ح𞺈ط𞺉ي𞺋ل",
    "𞺌م𞺍ن𞺎س𞺏ع𞺐ف𞺑ص𞺒ق𞺓ر𞺔ش𞺕ت𞺖ث𞺗خ𞺘ذ𞺙ض𞺚ظ𞺛غ𞺡ب𞺢ج𞺣د𞺥و𞺦ز𞺧ح𞺨ط𞺩ي𞺫ل𞺬م𞺭ن𞺮س𞺯ع𞺰ف𞺱ص𞺲ق𞺳ر𞺴ش𞺵ت𞺶ث𞺷خ𞺸ذ𞺹ض𞺺ظ𞺻غ🄫C🄬R🄰A",
    "🄱B🄲C🄳D🄴E🄵F🄶G🄷H🄸I🄹J🄺K🄻L🄼M🄽N🄾O🄿P🅀Q🅁R🅂S🅃T🅄U🅅V🅆W🅇X🅈Y🅉Z🈂サ🈐手🈑字🈒双🈓テ🈔二🈕多🈖解🈗天🈘交🈙映🈚無🈛料🈜前🈝後🈞再🈟新🈠初🈡終",
    "🈢生🈣販🈤声🈥吹🈦演🈧投🈨捕🈩一🈪三🈫遊🈬左🈭中🈮右🈯指🈰走🈱打🈲禁🈳空🈴合🈵満🈶有🈷月🈸申🈹割🈺営🈻配🉐得🉑可🯰0🯱1🯲2🯳3🯴4🯵5🯶6🯷7🯸8🯹9丽丽丸丸乁乁𠄢𠄢你你侮侮",
    "侻侻倂倂偺偺備備僧僧像像㒞㒞𠘺𠘺免免兔兔兤兤具具𠔜𠔜㒹㒹內內再再𠕋𠕋冗冗冤冤仌仌冬冬况况𩇟𩇟凵凵刃刃㓟㓟刻刻剆剆割割剷剷㔕㔕勇勇勉勉勤勤勺勺包包匆匆北北卉卉卑卑博博即即卽卽卿卿",
    "卿卿卿卿𠨬𠨬灰灰及及叟叟𠭣𠭣叫叫叱叱吆吆咞咞吸吸呈呈周周咢咢哶哶唐唐啓啓啣啣善善善善喙喙喫喫喳喳嗂嗂圖圖嘆嘆圗圗噑噑噴噴切切壮壮城城埴埴堍堍型型堲堲報報墬墬𡓤𡓤売売壷壷夆夆多多",
    "夢夢奢奢𡚨𡚨𡛪𡛪姬姬娛娛娧娧姘姘婦婦㛮㛮㛼㛼嬈嬈嬾嬾嬾嬾𡧈𡧈寃寃寘寘寧寧寳寳𡬘𡬘寿寿将将当当尢尢㞁㞁屠屠屮屮峀峀岍岍𡷤𡷤嵃嵃𡷦𡷦嵮嵮嵫嵫嵼嵼巡巡巢巢㠯㠯巽巽帨帨帽帽幩幩㡢㡢𢆃𢆃",
    "㡼㡼庰庰庳庳庶庶廊廊𪎒𪎒廾廾𢌱𢌱𢌱𢌱舁舁弢弢弢弢㣇㣇𣊸𣊸𦇚𦇚形形彫彫㣣㣣徚徚忍忍志志忹忹悁悁㤺㤺㤜㤜悔悔𢛔𢛔惇惇慈慈慌慌慎慎慌慌慺慺憎憎憲憲憤憤憯憯懞懞懲懲懶懶成成戛戛扝扝抱抱",
    "拔拔捐捐𢬌𢬌挽挽拼拼捨捨掃掃揤揤𢯱𢯱搢搢揅揅掩掩㨮㨮摩摩摾摾撝撝摷摷㩬㩬敏敏敬敬𣀊𣀊旣旣書書晉晉㬙㬙暑暑㬈㬈㫤㫤冒冒冕冕最最暜暜肭肭䏙䏙朗朗望望朡朡杞杞杓杓𣏃𣏃㭉㭉柺柺枅枅桒桒",
    "梅梅𣑭𣑭梎梎栟栟椔椔㮝㮝楂楂榣榣槪槪檨檨𣚣𣚣櫛櫛㰘㰘次次𣢧𣢧歔歔㱎㱎歲歲殟殟殺殺殻殻𣪍𣪍𡴋𡴋𣫺𣫺汎汎𣲼𣲼沿沿泍泍汧汧洖洖派派海海流流浩浩浸浸涅涅𣴞𣴞洴洴港港湮湮㴳㴳滋滋滇滇𣻑𣻑",
    "淹淹潮潮𣽞𣽞𣾎𣾎濆濆瀹瀹瀞瀞瀛瀛㶖㶖灊灊災災灷灷炭炭𠔥𠔥煅煅𤉣𤉣熜熜𤎫𤎫爨爨爵爵牐牐𤘈𤘈犀犀犕犕𤜵𤜵𤠔𤠔獺獺王王㺬㺬玥玥㺸㺸㺸㺸瑇瑇瑜瑜瑱瑱璅璅瓊瓊㼛㼛甤甤𤰶𤰶甾甾𤲒𤲒異異𢆟𢆟",
    "瘐瘐𤾡𤾡𤾸𤾸𥁄𥁄㿼㿼䀈䀈直直𥃳𥃳𥃲𥃲𥄙𥄙𥄳𥄳眞眞真真真真睊睊䀹䀹瞋瞋䁆䁆䂖䂖𥐝𥐝硎硎碌碌磌磌䃣䃣𥘦𥘦祖祖𥚚𥚚𥛅𥛅福福秫秫䄯䄯穀穀穊穊穏穏𥥼𥥼𥪧𥪧𥪧𥪧竮竮䈂䈂𥮫𥮫篆篆築築䈧䈧𥲀𥲀",
    "糒糒䊠䊠糨糨糣糣紀紀𥾆𥾆絣絣䌁䌁緇緇縂縂繅繅䌴䌴𦈨𦈨𦉇𦉇䍙䍙𦋙𦋙罺罺𦌾𦌾羕羕翺翺者者𦓚𦓚𦔣𦔣聠聠𦖨𦖨聰聰𣍟𣍟䏕䏕育育脃脃䐋䐋脾脾媵媵𦞧𦞧𦞵𦞵𣎓𣎓𣎜𣎜舁舁舄舄辞辞䑫䑫芑芑芋芋芝芝",
    "劳劳花花芳芳芽芽苦苦𦬼𦬼若若茝茝荣荣莭莭茣茣莽莽菧菧著著荓荓菊菊菌菌菜菜𦰶𦰶𦵫𦵫𦳕𦳕䔫䔫蓱蓱蓳蓳蔖蔖𧏊𧏊蕤蕤𦼬𦼬䕝䕝䕡䕡𦾱𦾱𧃒𧃒䕫䕫虐虐虜虜虧虧虩虩蚩蚩蚈蚈蜎蜎蛢蛢蝹蝹蜨蜨蝫蝫",
    "螆螆䗗䗗蟡蟡蠁蠁䗹䗹衠衠衣衣𧙧𧙧裗裗裞裞䘵䘵裺裺㒻㒻𧢮𧢮𧥦𧥦䚾䚾䛇䛇誠誠諭諭變變豕豕𧲨𧲨貫貫賁賁贛贛起起𧼯𧼯𠠄𠠄跋跋趼趼跰跰𠣞𠣞軔軔輸輸𨗒𨗒𨗭𨗭邔邔郱郱鄑鄑𨜮𨜮鄛鄛鈸鈸鋗鋗鋘鋘",
    "鉼鉼鏹鏹鐕鐕𨯺𨯺開開䦕䦕閷閷𨵷𨵷䧦䧦雃雃嶲嶲霣霣𩅅𩅅𩈚𩈚䩮䩮䩶䩶韠韠𩐊𩐊䪲䪲𩒖𩒖頋頋頋頋頩頩𩖶𩖶飢飢䬳䬳餩餩馧馧駂駂駾駾䯎䯎𩬰𩬰鬒鬒鱀鱀鳽鳽䳎䳎䳭䳭鵧鵧𪃎𪃎䳸䳸𪄅𪄅𪈎𪈎𪊑𪊑麻麻",
    "䵖䵖黹黹黾黾鼅鼅鼏鼏鼖鼖鼻鼻𪘀𪘀"]

/-- A character, its base text, and a closing bar. -/
def multipleBases : List String :=
   ["¼1⁄4|½1⁄2|¾3⁄4|ĲIJ|ĳij|ĿL·|ŀl·|ŉʼn|ǄDZ|ǅDz|ǆdz|ǇLJ|ǈLj|ǉlj|ǊNJ|ǋNj|ǌnj|ǱDZ|ǲDz|ǳdz|ևեւ|",
    "ٵاٴ|ٶوٴ|ٷۇٴ|ٸيٴ|\u09cb\u09c7\u09be|\u09cc\u09c7\u09d7|\u0b48\u0b47\u0b56|",
    "\u0b4b\u0b47\u0b3e|\u0b4c\u0b47\u0b57|ஔஒ\u0bd7|\u0bca\u0bc6\u0bbe|\u0bcb\u0bc7\u0bbe|",
    "\u0bcc\u0bc6\u0bd7|\u0cc0\u0cbf\u0cd5|\u0cc7\u0cc6\u0cd5|\u0cc8\u0cc6\u0cd6|",
    "\u0cca\u0cc6\u0cc2|\u0ccb\u0cc6\u0cc2\u0cd5|\u0d4a\u0d46\u0d3e|\u0d4b\u0d47\u0d3e|",
    "\u0d4c\u0d46\u0d57|\u0ddc\u0dd9\u0dcf|\u0ddd\u0dd9\u0dcf|\u0dde\u0dd9\u0ddf|ำ\u0e4dา|",
    "ຳ\u0ecdາ|ໜຫນ|ໝຫມ|གྷག\u0fb7|ཌྷཌ\u0fb7|དྷད\u0fb7|བྷབ\u0fb7|ཛྷཛ\u0fb7|ཀྵཀ\u0fb5|\u0f73|\u0f75|",
    "\u0f81|\u0f93\u0f92\u0fb7|\u0f9d\u0f9c\u0fb7|\u0fa2\u0fa1\u0fb7|\u0fa7\u0fa6\u0fb7|",
    "\u0fac\u0fab\u0fb7|\u0fb9\u0f90\u0fb5|ဦဥ\u102e|ᬆᬅ\u1b35|ᬈᬇ\u1b35|ᬊᬉ\u1b35|ᬌᬋ\u1b35|",
    "ᬎᬍ\u1b35|ᬒᬑ\u1b35|\u1b3b\u1b3a\u1b35|\u1b3d\u1b3c\u1b35|\u1b40\u1b3e\u1b35|",
    "\u1b41\u1b3f\u1b35|\u1b43\u1b42\u1b35|ẚaʾ|‥..|…...|″′′|‴′′′|‶‵‵|‷‵‵‵|‼!!|⁇??|⁈?!|⁉!?|",
    "⁗′′′′|₨Rs|℀a/c|℁a/s|℃°C|℅c/o|℆c/u|℉°F|№No|℠SM|℡TEL|™TM|℻FAX|⅐1⁄7|⅑1⁄9|⅒1⁄10|⅓1⁄3|⅔2⁄3|",
    "⅕1⁄5|⅖2⁄5|⅗3⁄5|⅘4⁄5|⅙1⁄6|⅚5⁄6|⅛1⁄8|⅜3⁄8|⅝5⁄8|⅞7⁄8|⅟1⁄|ⅡII|ⅢIII|ⅣIV|ⅥVI|ⅦVII|ⅧVIII|ⅨIX|",
    "ⅪXI|ⅫXII|ⅱii|ⅲiii|ⅳiv|ⅵvi|ⅶvii|ⅷviii|ⅸix|ⅺxi|ⅻxii|↉0⁄3|∬∫∫|∭∫∫∫|∯∮∮|∰∮∮∮|⑩10|⑪11|⑫12|",
    "⑬13|⑭14|⑮15|⑯16|⑰17|⑱18|⑲19|⑳20|⑴(1)|⑵(2)|⑶(3)|⑷(4)|⑸(5)|⑹(6)|⑺(7)|⑻(8)|⑼(9)|⑽(10)|",
    "⑾(11)|⑿(12)|⒀(13)|⒁(14)|⒂(15)|⒃(16)|⒄(17)|⒅(18)|⒆(19)|⒇(20)|⒈1.|⒉2.|⒊3.|⒋4.|⒌5.|⒍6.|⒎7.|",
    "⒏8.|⒐9.|⒑10.|⒒11.|⒓12.|⒔13.|⒕14.|⒖15.|⒗16.|⒘17.|⒙18.|⒚19.|⒛20.|⒜(a)|⒝(b)|⒞(c)|⒟(d)|⒠(e)|",
    "⒡(f)|⒢(g)|⒣(h)|⒤(i)|⒥(j)|⒦(k)|⒧(l)|⒨(m)|⒩(n)|⒪(o)|⒫(p)|⒬(q)|⒭(r)|⒮(s)|⒯(t)|⒰(u)|⒱(v)|",
    "⒲(w)|⒳(x)|⒴(y)|⒵(z)|⨌∫∫∫∫|⩴::=|⩵==|⩶===|ゟより|ヿコト|㈀(ᄀ)|㈁(ᄂ)|㈂(ᄃ)|㈃(ᄅ)|㈄(ᄆ)|㈅(ᄇ)|㈆(ᄉ)|㈇(ᄋ)|",
    "㈈(ᄌ)|㈉(ᄎ)|㈊(ᄏ)|㈋(ᄐ)|㈌(ᄑ)|㈍(ᄒ)|㈎(가)|㈏(나)|㈐(다)|㈑(라)|㈒(마)|㈓(바)|㈔(사)|㈕(아)|㈖(자)|",
    "㈗(차)|㈘(카)|㈙(타)|㈚(파)|㈛(하)|㈜(주)|㈝(오전)|㈞(오후)|㈠(一)|㈡(二)|㈢(三)|㈣(四)|㈤(五)|㈥(六)|㈦(七)|",
    "㈧(八)|㈨(九)|㈩(十)|㈪(月)|㈫(火)|㈬(水)|㈭(木)|㈮(金)|㈯(土)|㈰(日)|㈱(株)|㈲(有)|㈳(社)|㈴(名)|㈵(特)|㈶(財)|㈷(祝)|",
    "㈸(労)|㈹(代)|㈺(呼)|㈻(学)|㈼(監)|㈽(企)|㈾(資)|㈿(協)|㉀(祭)|㉁(休)|㉂(自)|㉃(至)|㉐PTE|㉑21|㉒22|㉓23|㉔24|㉕25|",
    "㉖26|㉗27|㉘28|㉙29|㉚30|㉛31|㉜32|㉝33|㉞34|㉟35|㉮가|㉯나|㉰다|㉱라|㉲마|㉳바|㉴사|㉵아|㉶자|㉷차|㉸카|㉹타|",
    "㉺파|㉻하|㉼참고|㉽주의|㉾우|㊱36|㊲37|㊳38|㊴39|㊵40|㊶41|㊷42|㊸43|㊹44|㊺45|㊻46|㊼47|㊽48|㊾49|㊿50|",
    "㋀1月|㋁2月|㋂3月|㋃4月|㋄5月|㋅6月|㋆7月|㋇8月|㋈9月|㋉10月|㋊11月|㋋12月|㋌Hg|㋍erg|㋎eV|㋏LTD|㋿令和|㌀アハート|㌁アルファ|",
    "㌂アンヘア|㌃アール|㌄イニンク|㌅インチ|㌆ウォン|㌇エスクート|㌈エーカー|㌉オンス|㌊オーム|㌋カイリ|㌌カラット|㌍カロリー|㌎カロン|㌏カンマ|㌐キカ|㌑キニー|",
    "㌒キュリー|㌓キルター|㌔キロ|㌕キロクラム|㌖キロメートル|㌗キロワット|㌘クラム|㌙クラムトン|㌚クルセイロ|㌛クローネ|㌜ケース|㌝コルナ|㌞コーホ|㌟サイクル|",
    "㌠サンチーム|㌡シリンク|㌢センチ|㌣セント|㌤タース|㌥テシ|㌦トル|㌧トン|㌨ナノ|㌩ノット|㌪ハイツ|㌫ハーセント|㌬ハーツ|㌭ハーレル|㌮ヒアストル|㌯ヒクル|㌰ヒコ|",
    "㌱ヒル|㌲ファラット|㌳フィート|㌴フッシェル|㌵フラン|㌶ヘクタール|㌷ヘソ|㌸ヘニヒ|㌹ヘルツ|㌺ヘンス|㌻ヘーシ|㌼ヘータ|㌽ホイント|㌾ホルト|㌿ホン|㍀ホント|",
    "㍁ホール|㍂ホーン|㍃マイクロ|㍄マイル|㍅マッハ|㍆マルク|㍇マンション|㍈ミクロン|㍉ミリ|㍊ミリハール|㍋メカ|㍌メカトン|㍍メートル|㍎ヤート|㍏ヤール|㍐ユアン|",
    "㍑リットル|㍒リラ|㍓ルヒー|㍔ルーフル|㍕レム|㍖レントケン|㍗ワット|㍘0点|㍙1点|㍚2点|㍛3点|㍜4点|㍝5点|㍞6点|㍟7点|㍠8点|㍡9点|㍢10点|㍣11点|",
    "㍤12点|㍥13点|㍦14点|㍧15点|㍨16点|㍩17点|㍪18点|㍫19点|㍬20点|㍭21点|㍮22点|㍯23点|㍰24点|㍱hPa|㍲da|㍳AU|㍴bar|㍵oV|",
    "㍶pc|㍷dm|㍸dm2|㍹dm3|㍺IU|㍻平成|㍼昭和|㍽大正|㍾明治|㍿株式会社|㎀pA|㎁nA|㎂μA|㎃mA|㎄kA|㎅KB|㎆MB|㎇GB|㎈cal|㎉kcal|",
    "㎊pF|㎋nF|㎌μF|㎍μg|㎎mg|㎏kg|㎐Hz|㎑kHz|㎒MHz|㎓GHz|㎔THz|㎕μl|㎖ml|㎗dl|㎘kl|㎙fm|㎚nm|㎛μm|㎜mm|㎝cm|㎞km|",
    "㎟mm2|㎠cm2|㎡m2|㎢km2|㎣mm3|㎤cm3|㎥m3|㎦km3|㎧m∕s|㎨m∕s2|㎩Pa|㎪kPa|㎫MPa|㎬GPa|㎭rad|㎮rad∕s|㎯rad∕s2|",
    "㎰ps|㎱ns|㎲μs|㎳ms|㎴pV|㎵nV|㎶μV|㎷mV|㎸kV|㎹MV|㎺pW|㎻nW|㎼μW|㎽mW|㎾kW|㎿MW|㏀kΩ|㏁MΩ|㏂a.m.|㏃Bq|㏄cc|",
    "㏅cd|㏆C∕kg|㏇Co.|㏈dB|㏉Gy|㏊ha|㏋HP|㏌in|㏍KK|㏎KM|㏏kt|㏐lm|㏑ln|㏒log|㏓lx|㏔mb|㏕mil|㏖mol|㏗PH|㏘p.m.|",
    "㏙PPM|㏚PR|㏛sr|㏜Sv|㏝Wb|㏞V∕m|㏟A∕m|㏠1日|㏡2日|㏢3日|㏣4日|㏤5日|㏥6日|㏦7日|㏧8日|㏨9日|㏩10日|㏪11日|㏫12日|㏬13日|",
    "㏭14日|㏮15日|㏯16日|㏰17日|㏱18日|㏲19日|㏳20日|㏴21日|㏵22日|㏶23日|㏷24日|㏸25日|㏹26日|㏺27日|㏻28日|㏼29日|㏽30日|",
    "㏾31日|㏿gal|ﬀff|ﬁfi|ﬂfl|ﬃffi|ﬄffl|ﬅst|ﬆst|ﬓմն|ﬔմե|ﬕմի|ﬖվն|ﬗմխ|ﭏאל|ﯝۇٴ|ﯪيا|ﯫيا|ﯬيە|ﯭيە|ﯮيو|",
    "ﯯيو|ﯰيۇ|ﯱيۇ|ﯲيۆ|ﯳيۆ|ﯴيۈ|ﯵيۈ|ﯶيې|ﯷيې|ﯸيې|ﯹيى|ﯺيى|ﯻيى|ﰀيج|ﰁيح|ﰂيم|ﰃيى|ﰄيي|ﰅبج|ﰆبح|ﰇبخ|ﰈبم|",
    "ﰉبى|ﰊبي|ﰋتج|ﰌتح|ﰍتخ|ﰎتم|ﰏتى|ﰐتي|ﰑثج|ﰒثم|ﰓثى|ﰔثي|ﰕجح|ﰖجم|ﰗحج|ﰘحم|ﰙخج|ﰚخح|ﰛخم|ﰜسج|ﰝسح|ﰞسخ|",
    "ﰟسم|ﰠصح|ﰡصم|ﰢضج|ﰣضح|ﰤضخ|ﰥضم|ﰦطح|ﰧطم|ﰨظم|ﰩعج|ﰪعم|ﰫغج|ﰬغم|ﰭفج|ﰮفح|ﰯفخ|ﰰفم|ﰱفى|ﰲفي|ﰳقح|ﰴقم|",
    "ﰵقى|ﰶقي|ﰷكا|ﰸكج|ﰹكح|ﰺكخ|ﰻكل|ﰼكم|ﰽكى|ﰾكي|ﰿلج|ﱀلح|ﱁلخ|ﱂلم|ﱃلى|ﱄلي|ﱅمج|ﱆمح|ﱇمخ|ﱈمم|ﱉمى|ﱊمي|",
    "ﱋنج|ﱌنح|ﱍنخ|ﱎنم|ﱏنى|ﱐني|ﱑهج|ﱒهم|ﱓهى|ﱔهي|ﱕيج|ﱖيح|ﱗيخ|ﱘيم|ﱙيى|ﱚيي|ﱤير|ﱥيز|ﱦيم|ﱧين|ﱨيى|ﱩيي|",
    "ﱪبر|ﱫبز|ﱬبم|ﱭبن|ﱮبى|ﱯبي|ﱰتر|ﱱتز|ﱲتم|ﱳتن|ﱴتى|ﱵتي|ﱶثر|ﱷثز|ﱸثم|ﱹثن|ﱺثى|ﱻثي|ﱼفى|ﱽفي|ﱾقى|ﱿقي|",
    "ﲀكا|ﲁكل|ﲂكم|ﲃكى|ﲄكي|ﲅلم|ﲆلى|ﲇلي|ﲈما|ﲉمم|ﲊنر|ﲋنز|ﲌنم|ﲍنن|ﲎنى|ﲏني|ﲑير|ﲒيز|ﲓيم|ﲔين|ﲕيى|ﲖيي|",
    "ﲗيج|ﲘيح|ﲙيخ|ﲚيم|ﲛيه|ﲜبج|ﲝبح|ﲞبخ|ﲟبم|ﲠبه|ﲡتج|ﲢتح|ﲣتخ|ﲤتم|ﲥته|ﲦثم|ﲧجح|ﲨجم|ﲩحج|ﲪحم|ﲫخج|ﲬخم|",
    "ﲭسج|ﲮسح|ﲯسخ|ﲰسم|ﲱصح|ﲲصخ|ﲳصم|ﲴضج|ﲵضح|ﲶضخ|ﲷضم|ﲸطح|ﲹظم|ﲺعج|ﲻعم|ﲼغج|ﲽغم|ﲾفج|ﲿفح|ﳀفخ|ﳁفم|ﳂقح|",
    "ﳃقم|ﳄكج|ﳅكح|ﳆكخ|ﳇكل|ﳈكم|ﳉلج|ﳊلح|ﳋلخ|ﳌلم|ﳍله|ﳎمج|ﳏمح|ﳐمخ|ﳑمم|ﳒنج|ﳓنح|ﳔنخ|ﳕنم|ﳖنه|ﳗهج|ﳘهم|",
    "ﳚيج|ﳛيح|ﳜيخ|ﳝيم|ﳞيه|ﳟيم|ﳠيه|ﳡبم|ﳢبه|ﳣتم|ﳤته|ﳥثم|ﳦثه|ﳧسم|ﳨسه|ﳩشم|ﳪشه|ﳫكل|ﳬكم|ﳭلم|ﳮنم|ﳯنه|",
    "ﳰيم|ﳱيه|ﳵطى|ﳶطي|ﳷعى|ﳸعي|ﳹغى|ﳺغي|ﳻسى|ﳼسي|ﳽشى|ﳾشي|ﳿحى|ﴀحي|ﴁجى|ﴂجي|ﴃخى|ﴄخي|ﴅصى|ﴆصي|ﴇضى|ﴈضي|",
    "ﴉشج|ﴊشح|ﴋشخ|ﴌشم|ﴍشر|ﴎسر|ﴏصر|ﴐضر|ﴑطى|ﴒطي|ﴓعى|ﴔعي|ﴕغى|ﴖغي|ﴗسى|ﴘسي|ﴙشى|ﴚشي|ﴛحى|ﴜحي|ﴝجى|ﴞجي|",
    "ﴟخى|ﴠخي|ﴡصى|ﴢصي|ﴣضى|ﴤضي|ﴥشج|ﴦشح|ﴧشخ|ﴨشم|ﴩشر|ﴪسر|ﴫصر|ﴬضر|ﴭشج|ﴮشح|ﴯشخ|ﴰشم|ﴱسه|ﴲشه|ﴳطم|ﴴسج|",
    "ﴵسح|ﴶسخ|ﴷشج|ﴸشح|ﴹشخ|ﴺطم|ﴻظم|ﵐتجم|ﵑتحج|ﵒتحج|ﵓتحم|ﵔتخم|ﵕتمج|ﵖتمح|ﵗتمخ|ﵘجمح|ﵙجمح|ﵚحمي|ﵛحمى|",
    "ﵜسحج|ﵝسجح|ﵞسجى|ﵟسمح|ﵠسمح|ﵡسمج|ﵢسمم|ﵣسمم|ﵤصحح|ﵥصحح|ﵦصمم|ﵧشحم|ﵨشحم|ﵩشجي|ﵪشمخ|ﵫشمخ|ﵬشمم|",
    "ﵭشمم|ﵮضحى|ﵯضخم|ﵰضخم|ﵱطمح|ﵲطمح|ﵳطمم|ﵴطمي|ﵵعجم|ﵶعمم|ﵷعمم|ﵸعمى|ﵹغمم|ﵺغمي|ﵻغمى|ﵼفخم|ﵽفخم|",
    "ﵾقمح|ﵿقمم|ﶀلحم|ﶁلحي|ﶂلحى|ﶃلجج|ﶄلجج|ﶅلخم|ﶆلخم|ﶇلمح|ﶈلمح|ﶉمحج|ﶊمحم|ﶋمحي|ﶌمجح|ﶍمجم|ﶎمخج|",
    "ﶏمخم|ﶒمجخ|ﶓهمج|ﶔهمم|ﶕنحم|ﶖنحى|ﶗنجم|ﶘنجم|ﶙنجى|ﶚنمي|ﶛنمى|ﶜيمم|ﶝيمم|ﶞبخي|ﶟتجي|ﶠتجى|ﶡتخي|",
    "ﶢتخى|ﶣتمي|ﶤتمى|ﶥجمي|ﶦجحى|ﶧجمى|ﶨسخى|ﶩصحي|ﶪشحي|ﶫضحي|ﶬلجي|ﶭلمي|ﶮيحي|ﶯيجي|ﶰيمي|ﶱممي|ﶲقمي|",
    "ﶳنحي|ﶴقمح|ﶵلحم|ﶶعمي|ﶷكمي|ﶸنجح|ﶹمخي|ﶺلجم|ﶻكمم|ﶼلجم|ﶽنجح|ﶾجحي|ﶿحجي|ﷀمجي|ﷁفمي|ﷂبحي|ﷃكمم|",
    "ﷄعجم|ﷅصمم|ﷆسخي|ﷇنجي|ﷰصلے|ﷱقلے|ﷲالله|ﷳاكبر|ﷴمحمد|ﷵصلعم|ﷶرسول|ﷷعليه|ﷸوسلم|ﷹصلى|",
    "ﷺصلى الله عليه وسلم|ﷻجل جلاله|﷼ریال|︙...|︰..|ﻵلا|ﻶلا|ﻷلا|ﻸلا|ﻹلا|ﻺلا|ﻻلا|ﻼلا|ﾞ|ﾟ|𑄮𑄮|",
    "𑄯𑄯|𑍋𑍋|𑍌𑍌|𑒻𑒻|𑒼𑒼|𑒾𑒾|𑖺𑖺|𑖻𑖻|𑤸𑤸|🄀0.|🄁0,|🄂1,|🄃2,|🄄3,|🄅4,|🄆5,|🄇6,|🄈7,|🄉8,|🄊9,|🄐(A)|",
    "🄑(B)|🄒(C)|🄓(D)|🄔(E)|🄕(F)|🄖(G)|🄗(H)|🄘(I)|🄙(J)|🄚(K)|🄛(L)|🄜(M)|🄝(N)|🄞(O)|🄟(P)|🄠(Q)|🄡(R)|",
    "🄢(S)|🄣(T)|🄤(U)|🄥(V)|🄦(W)|🄧(X)|🄨(Y)|🄩(Z)|🄪〔S〕|🄭CD|🄮WZ|🅊HV|🅋MV|🅌SD|🅍SS|🅎PPV|🅏WC|🅪MC|🅫MD|",
    "🅬MR|🆐DJ|🈀ほか|🈁ココ|🉀〔本〕|🉁〔三〕|🉂〔二〕|🉃〔安〕|🉄〔点〕|🉅〔打〕|🉆〔盗〕|🉇〔勝〕|🉈〔敗〕|"]

end MarkupLint.Text
