import HubProxy.Text.Combining

/-!
# Composed characters

Many characters with a mark have two spellings: one character, or the bare character followed by the
mark. `decompose` gives the longest spelling and `compose` the shortest one. The syllables of Korean
are composed by arithmetic on their code points, all others by a table.
-/

namespace HubProxy.Text

/-- The composed characters, each followed by the two characters that it is composed of. -/
def compositionRows : List String :=
  ["ÀA\u0300ÁA\u0301ÂA\u0302ÃA\u0303ÄA\u0308ÅA\u030aÇC\u0327ÈE\u0300ÉE\u0301ÊE\u0302ËE\u0308",
  "ÌI\u0300ÍI\u0301ÎI\u0302ÏI\u0308ÑN\u0303ÒO\u0300ÓO\u0301ÔO\u0302ÕO\u0303ÖO\u0308ÙU\u0300",
  "ÚU\u0301ÛU\u0302ÜU\u0308ÝY\u0301àa\u0300áa\u0301âa\u0302ãa\u0303äa\u0308åa\u030açc\u0327",
  "èe\u0300ée\u0301êe\u0302ëe\u0308ìi\u0300íi\u0301îi\u0302ïi\u0308ñn\u0303òo\u0300óo\u0301",
  "ôo\u0302õo\u0303öo\u0308ùu\u0300úu\u0301ûu\u0302üu\u0308ýy\u0301ÿy\u0308ĀA\u0304āa\u0304",
  "ĂA\u0306ăa\u0306ĄA\u0328ąa\u0328ĆC\u0301ćc\u0301ĈC\u0302ĉc\u0302ĊC\u0307ċc\u0307ČC\u030c",
  "čc\u030cĎD\u030cďd\u030cĒE\u0304ēe\u0304ĔE\u0306ĕe\u0306ĖE\u0307ėe\u0307ĘE\u0328ęe\u0328",
  "ĚE\u030cěe\u030cĜG\u0302ĝg\u0302ĞG\u0306ğg\u0306ĠG\u0307ġg\u0307ĢG\u0327ģg\u0327ĤH\u0302",
  "ĥh\u0302ĨI\u0303ĩi\u0303ĪI\u0304īi\u0304ĬI\u0306ĭi\u0306ĮI\u0328įi\u0328İI\u0307ĴJ\u0302",
  "ĵj\u0302ĶK\u0327ķk\u0327ĹL\u0301ĺl\u0301ĻL\u0327ļl\u0327ĽL\u030cľl\u030cŃN\u0301ńn\u0301",
  "ŅN\u0327ņn\u0327ŇN\u030cňn\u030cŌO\u0304ōo\u0304ŎO\u0306ŏo\u0306ŐO\u030bőo\u030bŔR\u0301",
  "ŕr\u0301ŖR\u0327ŗr\u0327ŘR\u030cřr\u030cŚS\u0301śs\u0301ŜS\u0302ŝs\u0302ŞS\u0327şs\u0327",
  "ŠS\u030cšs\u030cŢT\u0327ţt\u0327ŤT\u030cťt\u030cŨU\u0303ũu\u0303ŪU\u0304ūu\u0304ŬU\u0306",
  "ŭu\u0306ŮU\u030aůu\u030aŰU\u030bűu\u030bŲU\u0328ųu\u0328ŴW\u0302ŵw\u0302ŶY\u0302ŷy\u0302",
  "ŸY\u0308ŹZ\u0301źz\u0301ŻZ\u0307żz\u0307ŽZ\u030cžz\u030cƠO\u031bơo\u031bƯU\u031bưu\u031b",
  "ǍA\u030cǎa\u030cǏI\u030cǐi\u030cǑO\u030cǒo\u030cǓU\u030cǔu\u030cǕÜ\u0304ǖü\u0304ǗÜ\u0301",
  "ǘü\u0301ǙÜ\u030cǚü\u030cǛÜ\u0300ǜü\u0300ǞÄ\u0304ǟä\u0304ǠȦ\u0304ǡȧ\u0304ǢÆ\u0304ǣæ\u0304",
  "ǦG\u030cǧg\u030cǨK\u030cǩk\u030cǪO\u0328ǫo\u0328ǬǪ\u0304ǭǫ\u0304ǮƷ\u030cǯʒ\u030cǰj\u030c",
  "ǴG\u0301ǵg\u0301ǸN\u0300ǹn\u0300ǺÅ\u0301ǻå\u0301ǼÆ\u0301ǽæ\u0301ǾØ\u0301ǿø\u0301ȀA\u030f",
  "ȁa\u030fȂA\u0311ȃa\u0311ȄE\u030fȅe\u030fȆE\u0311ȇe\u0311ȈI\u030fȉi\u030fȊI\u0311ȋi\u0311",
  "ȌO\u030fȍo\u030fȎO\u0311ȏo\u0311ȐR\u030fȑr\u030fȒR\u0311ȓr\u0311ȔU\u030fȕu\u030fȖU\u0311",
  "ȗu\u0311ȘS\u0326șs\u0326ȚT\u0326țt\u0326ȞH\u030cȟh\u030cȦA\u0307ȧa\u0307ȨE\u0327ȩe\u0327",
  "ȪÖ\u0304ȫö\u0304ȬÕ\u0304ȭõ\u0304ȮO\u0307ȯo\u0307ȰȮ\u0304ȱȯ\u0304ȲY\u0304ȳy\u0304΅¨\u0301",
  "ΆΑ\u0301ΈΕ\u0301ΉΗ\u0301ΊΙ\u0301ΌΟ\u0301ΎΥ\u0301ΏΩ\u0301ΐϊ\u0301ΪΙ\u0308ΫΥ\u0308άα\u0301",
  "έε\u0301ήη\u0301ίι\u0301ΰϋ\u0301ϊι\u0308ϋυ\u0308όο\u0301ύυ\u0301ώω\u0301ϓϒ\u0301ϔϒ\u0308",
  "ЀЕ\u0300ЁЕ\u0308ЃГ\u0301ЇІ\u0308ЌК\u0301ЍИ\u0300ЎУ\u0306ЙИ\u0306йи\u0306ѐе\u0300ёе\u0308",
  "ѓг\u0301їі\u0308ќк\u0301ѝи\u0300ўу\u0306ѶѴ\u030fѷѵ\u030fӁЖ\u0306ӂж\u0306ӐА\u0306ӑа\u0306",
  "ӒА\u0308ӓа\u0308ӖЕ\u0306ӗе\u0306ӚӘ\u0308ӛә\u0308ӜЖ\u0308ӝж\u0308ӞЗ\u0308ӟз\u0308ӢИ\u0304",
  "ӣи\u0304ӤИ\u0308ӥи\u0308ӦО\u0308ӧо\u0308ӪӨ\u0308ӫө\u0308ӬЭ\u0308ӭэ\u0308ӮУ\u0304ӯу\u0304",
  "ӰУ\u0308ӱу\u0308ӲУ\u030bӳу\u030bӴЧ\u0308ӵч\u0308ӸЫ\u0308ӹы\u0308\u0622\u0627\u0653",
  "\u0623\u0627\u0654\u0624\u0648\u0654\u0625\u0627\u0655\u0626\u064a\u0654\u06c0\u06d5\u0654",
  "\u06c2\u06c1\u0654\u06d3\u06d2\u0654ऩन\u093cऱर\u093cऴळ\u093c\u09cb\u09c7\u09be",
  "\u09cc\u09c7\u09d7\u0b48\u0b47\u0b56\u0b4b\u0b47\u0b3e\u0b4c\u0b47\u0b57ஔஒ\u0bd7",
  "\u0bca\u0bc6\u0bbe\u0bcb\u0bc7\u0bbe\u0bcc\u0bc6\u0bd7\u0c48\u0c46\u0c56\u0cc0\u0cbf\u0cd5",
  "\u0cc7\u0cc6\u0cd5\u0cc8\u0cc6\u0cd6\u0cca\u0cc6\u0cc2\u0ccb\u0cca\u0cd5\u0d4a\u0d46\u0d3e",
  "\u0d4b\u0d47\u0d3e\u0d4c\u0d46\u0d57\u0dda\u0dd9\u0dca\u0ddc\u0dd9\u0dcf\u0ddd\u0ddc\u0dca",
  "\u0dde\u0dd9\u0ddfဦဥ\u102eᬆᬅ\u1b35ᬈᬇ\u1b35ᬊᬉ\u1b35ᬌᬋ\u1b35ᬎᬍ\u1b35ᬒᬑ\u1b35\u1b3b\u1b3a\u1b35",
  "\u1b3d\u1b3c\u1b35\u1b40\u1b3e\u1b35\u1b41\u1b3f\u1b35\u1b43\u1b42\u1b35ḀA\u0325ḁa\u0325",
  "ḂB\u0307ḃb\u0307ḄB\u0323ḅb\u0323ḆB\u0331ḇb\u0331ḈÇ\u0301ḉç\u0301ḊD\u0307ḋd\u0307ḌD\u0323",
  "ḍd\u0323ḎD\u0331ḏd\u0331ḐD\u0327ḑd\u0327ḒD\u032dḓd\u032dḔĒ\u0300ḕē\u0300ḖĒ\u0301ḗē\u0301",
  "ḘE\u032dḙe\u032dḚE\u0330ḛe\u0330ḜȨ\u0306ḝȩ\u0306ḞF\u0307ḟf\u0307ḠG\u0304ḡg\u0304ḢH\u0307",
  "ḣh\u0307ḤH\u0323ḥh\u0323ḦH\u0308ḧh\u0308ḨH\u0327ḩh\u0327ḪH\u032eḫh\u032eḬI\u0330ḭi\u0330",
  "ḮÏ\u0301ḯï\u0301ḰK\u0301ḱk\u0301ḲK\u0323ḳk\u0323ḴK\u0331ḵk\u0331ḶL\u0323ḷl\u0323ḸḶ\u0304",
  "ḹḷ\u0304ḺL\u0331ḻl\u0331ḼL\u032dḽl\u032dḾM\u0301ḿm\u0301ṀM\u0307ṁm\u0307ṂM\u0323ṃm\u0323",
  "ṄN\u0307ṅn\u0307ṆN\u0323ṇn\u0323ṈN\u0331ṉn\u0331ṊN\u032dṋn\u032dṌÕ\u0301ṍõ\u0301ṎÕ\u0308",
  "ṏõ\u0308ṐŌ\u0300ṑō\u0300ṒŌ\u0301ṓō\u0301ṔP\u0301ṕp\u0301ṖP\u0307ṗp\u0307ṘR\u0307ṙr\u0307",
  "ṚR\u0323ṛr\u0323ṜṚ\u0304ṝṛ\u0304ṞR\u0331ṟr\u0331ṠS\u0307ṡs\u0307ṢS\u0323ṣs\u0323ṤŚ\u0307",
  "ṥś\u0307ṦŠ\u0307ṧš\u0307ṨṢ\u0307ṩṣ\u0307ṪT\u0307ṫt\u0307ṬT\u0323ṭt\u0323ṮT\u0331ṯt\u0331",
  "ṰT\u032dṱt\u032dṲU\u0324ṳu\u0324ṴU\u0330ṵu\u0330ṶU\u032dṷu\u032dṸŨ\u0301ṹũ\u0301ṺŪ\u0308",
  "ṻū\u0308ṼV\u0303ṽv\u0303ṾV\u0323ṿv\u0323ẀW\u0300ẁw\u0300ẂW\u0301ẃw\u0301ẄW\u0308ẅw\u0308",
  "ẆW\u0307ẇw\u0307ẈW\u0323ẉw\u0323ẊX\u0307ẋx\u0307ẌX\u0308ẍx\u0308ẎY\u0307ẏy\u0307ẐZ\u0302",
  "ẑz\u0302ẒZ\u0323ẓz\u0323ẔZ\u0331ẕz\u0331ẖh\u0331ẗt\u0308ẘw\u030aẙy\u030aẛſ\u0307ẠA\u0323",
  "ạa\u0323ẢA\u0309ảa\u0309ẤÂ\u0301ấâ\u0301ẦÂ\u0300ầâ\u0300ẨÂ\u0309ẩâ\u0309ẪÂ\u0303ẫâ\u0303",
  "ẬẠ\u0302ậạ\u0302ẮĂ\u0301ắă\u0301ẰĂ\u0300ằă\u0300ẲĂ\u0309ẳă\u0309ẴĂ\u0303ẵă\u0303ẶẠ\u0306",
  "ặạ\u0306ẸE\u0323ẹe\u0323ẺE\u0309ẻe\u0309ẼE\u0303ẽe\u0303ẾÊ\u0301ếê\u0301ỀÊ\u0300ềê\u0300",
  "ỂÊ\u0309ểê\u0309ỄÊ\u0303ễê\u0303ỆẸ\u0302ệẹ\u0302ỈI\u0309ỉi\u0309ỊI\u0323ịi\u0323ỌO\u0323",
  "ọo\u0323ỎO\u0309ỏo\u0309ỐÔ\u0301ốô\u0301ỒÔ\u0300ồô\u0300ỔÔ\u0309ổô\u0309ỖÔ\u0303ỗô\u0303",
  "ỘỌ\u0302ộọ\u0302ỚƠ\u0301ớơ\u0301ỜƠ\u0300ờơ\u0300ỞƠ\u0309ởơ\u0309ỠƠ\u0303ỡơ\u0303ỢƠ\u0323",
  "ợơ\u0323ỤU\u0323ụu\u0323ỦU\u0309ủu\u0309ỨƯ\u0301ứư\u0301ỪƯ\u0300ừư\u0300ỬƯ\u0309ửư\u0309",
  "ỮƯ\u0303ữư\u0303ỰƯ\u0323ựư\u0323ỲY\u0300ỳy\u0300ỴY\u0323ỵy\u0323ỶY\u0309ỷy\u0309ỸY\u0303",
  "ỹy\u0303ἀα\u0313ἁα\u0314ἂἀ\u0300ἃἁ\u0300ἄἀ\u0301ἅἁ\u0301ἆἀ\u0342ἇἁ\u0342ἈΑ\u0313ἉΑ\u0314",
  "ἊἈ\u0300ἋἉ\u0300ἌἈ\u0301ἍἉ\u0301ἎἈ\u0342ἏἉ\u0342ἐε\u0313ἑε\u0314ἒἐ\u0300ἓἑ\u0300ἔἐ\u0301",
  "ἕἑ\u0301ἘΕ\u0313ἙΕ\u0314ἚἘ\u0300ἛἙ\u0300ἜἘ\u0301ἝἙ\u0301ἠη\u0313ἡη\u0314ἢἠ\u0300ἣἡ\u0300",
  "ἤἠ\u0301ἥἡ\u0301ἦἠ\u0342ἧἡ\u0342ἨΗ\u0313ἩΗ\u0314ἪἨ\u0300ἫἩ\u0300ἬἨ\u0301ἭἩ\u0301ἮἨ\u0342",
  "ἯἩ\u0342ἰι\u0313ἱι\u0314ἲἰ\u0300ἳἱ\u0300ἴἰ\u0301ἵἱ\u0301ἶἰ\u0342ἷἱ\u0342ἸΙ\u0313ἹΙ\u0314",
  "ἺἸ\u0300ἻἹ\u0300ἼἸ\u0301ἽἹ\u0301ἾἸ\u0342ἿἹ\u0342ὀο\u0313ὁο\u0314ὂὀ\u0300ὃὁ\u0300ὄὀ\u0301",
  "ὅὁ\u0301ὈΟ\u0313ὉΟ\u0314ὊὈ\u0300ὋὉ\u0300ὌὈ\u0301ὍὉ\u0301ὐυ\u0313ὑυ\u0314ὒὐ\u0300ὓὑ\u0300",
  "ὔὐ\u0301ὕὑ\u0301ὖὐ\u0342ὗὑ\u0342ὙΥ\u0314ὛὙ\u0300ὝὙ\u0301ὟὙ\u0342ὠω\u0313ὡω\u0314ὢὠ\u0300",
  "ὣὡ\u0300ὤὠ\u0301ὥὡ\u0301ὦὠ\u0342ὧὡ\u0342ὨΩ\u0313ὩΩ\u0314ὪὨ\u0300ὫὩ\u0300ὬὨ\u0301ὭὩ\u0301",
  "ὮὨ\u0342ὯὩ\u0342ὰα\u0300ὲε\u0300ὴη\u0300ὶι\u0300ὸο\u0300ὺυ\u0300ὼω\u0300ᾀἀ\u0345ᾁἁ\u0345",
  "ᾂἂ\u0345ᾃἃ\u0345ᾄἄ\u0345ᾅἅ\u0345ᾆἆ\u0345ᾇἇ\u0345ᾈἈ\u0345ᾉἉ\u0345ᾊἊ\u0345ᾋἋ\u0345ᾌἌ\u0345",
  "ᾍἍ\u0345ᾎἎ\u0345ᾏἏ\u0345ᾐἠ\u0345ᾑἡ\u0345ᾒἢ\u0345ᾓἣ\u0345ᾔἤ\u0345ᾕἥ\u0345ᾖἦ\u0345ᾗἧ\u0345",
  "ᾘἨ\u0345ᾙἩ\u0345ᾚἪ\u0345ᾛἫ\u0345ᾜἬ\u0345ᾝἭ\u0345ᾞἮ\u0345ᾟἯ\u0345ᾠὠ\u0345ᾡὡ\u0345ᾢὢ\u0345",
  "ᾣὣ\u0345ᾤὤ\u0345ᾥὥ\u0345ᾦὦ\u0345ᾧὧ\u0345ᾨὨ\u0345ᾩὩ\u0345ᾪὪ\u0345ᾫὫ\u0345ᾬὬ\u0345ᾭὭ\u0345",
  "ᾮὮ\u0345ᾯὯ\u0345ᾰα\u0306ᾱα\u0304ᾲὰ\u0345ᾳα\u0345ᾴά\u0345ᾶα\u0342ᾷᾶ\u0345ᾸΑ\u0306ᾹΑ\u0304",
  "ᾺΑ\u0300ᾼΑ\u0345῁¨\u0342ῂὴ\u0345ῃη\u0345ῄή\u0345ῆη\u0342ῇῆ\u0345ῈΕ\u0300ῊΗ\u0300ῌΗ\u0345",
  "῍᾿\u0300῎᾿\u0301῏᾿\u0342ῐι\u0306ῑι\u0304ῒϊ\u0300ῖι\u0342ῗϊ\u0342ῘΙ\u0306ῙΙ\u0304ῚΙ\u0300",
  "῝῾\u0300῞῾\u0301῟῾\u0342ῠυ\u0306ῡυ\u0304ῢϋ\u0300ῤρ\u0313ῥρ\u0314ῦυ\u0342ῧϋ\u0342ῨΥ\u0306",
  "ῩΥ\u0304ῪΥ\u0300ῬΡ\u0314῭¨\u0300ῲὼ\u0345ῳω\u0345ῴώ\u0345ῶω\u0342ῷῶ\u0345ῸΟ\u0300ῺΩ\u0300",
  "ῼΩ\u0345↚←\u0338↛→\u0338↮↔\u0338⇍⇐\u0338⇎⇔\u0338⇏⇒\u0338∄∃\u0338∉∈\u0338∌∋\u0338∤∣\u0338",
  "∦∥\u0338≁∼\u0338≄≃\u0338≇≅\u0338≉≈\u0338≠=\u0338≢≡\u0338≭≍\u0338≮<\u0338≯>\u0338≰≤\u0338",
  "≱≥\u0338≴≲\u0338≵≳\u0338≸≶\u0338≹≷\u0338⊀≺\u0338⊁≻\u0338⊄⊂\u0338⊅⊃\u0338⊈⊆\u0338⊉⊇\u0338",
  "⊬⊢\u0338⊭⊨\u0338⊮⊩\u0338⊯⊫\u0338⋠≼\u0338⋡≽\u0338⋢⊑\u0338⋣⊒\u0338⋪⊲\u0338⋫⊳\u0338⋬⊴\u0338",
  "⋭⊵\u0338がか\u3099ぎき\u3099ぐく\u3099げけ\u3099ごこ\u3099ざさ\u3099じし\u3099ずす\u3099ぜせ\u3099ぞそ\u3099",
  "だた\u3099ぢち\u3099づつ\u3099でて\u3099どと\u3099ばは\u3099ぱは\u309aびひ\u3099ぴひ\u309aぶふ\u3099ぷふ\u309a",
  "べへ\u3099ぺへ\u309aぼほ\u3099ぽほ\u309aゔう\u3099ゞゝ\u3099ガカ\u3099ギキ\u3099グク\u3099ゲケ\u3099ゴコ\u3099",
  "ザサ\u3099ジシ\u3099ズス\u3099ゼセ\u3099ゾソ\u3099ダタ\u3099ヂチ\u3099ヅツ\u3099デテ\u3099ドト\u3099バハ\u3099",
  "パハ\u309aビヒ\u3099ピヒ\u309aブフ\u3099プフ\u309aベヘ\u3099ペヘ\u309aボホ\u3099ポホ\u309aヴウ\u3099ヷワ\u3099",
  "ヸヰ\u3099ヹヱ\u3099ヺヲ\u3099ヾヽ\u3099𑂚𑂚𑂜𑂜𑂫𑂫𑄮𑄮𑄯𑄯𑍋𑍋𑍌𑍌𑒻𑒻𑒼𑒼𑒾𑒾𑖺𑖺𑖻𑖻𑤸𑤸"]

def triples : List Char → List (Char × Char × Char)
  | a :: b :: c :: rest => (a, b, c) :: triples rest
  | _ => []

/-- The composed characters with their two parts. -/
def compositions : List (Char × Char × Char) :=
  compositionRows.flatMap fun row => triples row.toList

/-- The parts of a Korean syllable: its consonant and its vowel, or a syllable of these and a final
consonant. Every consonant has 21 vowels, and every vowel 28 endings, of which the first is none. -/
def syllableParts? (c : Char) : Option (Char × Char) :=
  let n := c.toNat
  if 0xac00 ≤ n && n < 0xac00 + 11172 then
    let i := n - 0xac00
    if i % 28 = 0 then
      some (Char.ofNat (0x1100 + i / (21 * 28)), Char.ofNat (0x1161 + i / 28 % 21))
    else some (Char.ofNat (n - i % 28), Char.ofNat (0x11a7 + i % 28))
  else none

/-- The Korean syllable of two parts. -/
def syllableOf? (first second : Char) : Option Char :=
  let (m, n) := (first.toNat, second.toNat)
  if 0x1100 ≤ m && m < 0x1100 + 19 && 0x1161 ≤ n && n < 0x1161 + 21 then
    some (Char.ofNat (0xac00 + ((m - 0x1100) * 21 + (n - 0x1161)) * 28))
  else
    let isOpen := (syllableParts? first).isSome && (m - 0xac00) % 28 = 0
    if isOpen && 0x11a7 < n && n < 0x11a7 + 28 then some (Char.ofNat (m + (n - 0x11a7)))
    else none

def parts? (c : Char) : Option (Char × Char) :=
  match syllableParts? c with
  | some parts => some parts
  | none => (compositions.find? (·.1 == c)).map (·.2)

def composed? (first second : Char) : Option Char :=
  match syllableOf? first second with
  | some c => some c
  | none => (compositions.find? fun (_, a, b) => a == first && b == second).map (·.1)

/-- The parts of a character, taken apart as often as the first argument says. -/
def decomposeWithin : Nat → Char → List Char
  | 0, c => [c]
  | steps + 1, c =>
    match parts? c with
    | some (first, second) => decomposeWithin steps first ++ [second]
    | none => [c]

/-- The parts of a character. No character takes more than three marks. -/
def decompose (c : Char) : List Char :=
  decomposeWithin 3 c

/-- Composes a character with what follows it. `between` are the marks, in reverse, that stand
between the character and the rest since they could not be composed with it: they hide a mark of a
class that is not higher than that of the last of them. -/
def composeFrom (start : Char) (between : List Char) : List Char → List Char
  | [] => start :: between.reverse
  | c :: rest =>
    let isHidden := between.head?.any fun d => combiningClass c ≤ combiningClass d
    match if isHidden then none else composed? start c with
    | some whole => composeFrom whole between rest
    | none =>
      -- what is no mark starts anew, whatever could not be composed before it
      if combiningClass c = 0 then start :: between.reverse ++ composeFrom c [] rest
      else composeFrom start (c :: between) rest

/-- The characters with all composed that can be. -/
def compose : List Char → List Char
  | [] => []
  | c :: rest => composeFrom c [] rest

end HubProxy.Text
