import QueryResult.Zone.Basic

/-!
# Zones of Europe

Each row is a second of UTC and the offset, in seconds ahead of UTC, that is in force from it on.
The rows are those of the tz database and end with the year 2099.
-/

namespace QueryResult.Zone

/-- The zone `Europe/London`. -/
def london : Zone :=
  .ofTable "Europe/London" (-75)
   [.of (-3852662325) 0, .of (-1691964000) 3600, .of (-1680472800) 0, .of (-1664143200) 3600,
    .of (-1650146400) 0, .of (-1633903200) 3600, .of (-1617487200) 0, .of (-1601848800) 3600,
    .of (-1586037600) 0, .of (-1570399200) 3600, .of (-1552168800) 0, .of (-1538344800) 3600,
    .of (-1522533600) 0, .of (-1507500000) 3600, .of (-1490565600) 0, .of (-1473631200) 3600,
    .of (-1460930400) 0, .of (-1442786400) 3600, .of (-1428876000) 0, .of (-1410732000) 3600,
    .of (-1396216800) 0, .of (-1379282400) 3600, .of (-1364767200) 0, .of (-1348437600) 3600,
    .of (-1333317600) 0, .of (-1315778400) 3600, .of (-1301263200) 0, .of (-1284328800) 3600,
    .of (-1269813600) 0, .of (-1253484000) 3600, .of (-1238364000) 0, .of (-1221429600) 3600,
    .of (-1206914400) 0, .of (-1189980000) 3600, .of (-1175464800) 0, .of (-1159135200) 3600,
    .of (-1143410400) 0, .of (-1126476000) 3600, .of (-1111960800) 0, .of (-1095631200) 3600,
    .of (-1080511200) 0, .of (-1063576800) 3600, .of (-1049061600) 0, .of (-1032127200) 3600,
    .of (-1017612000) 0, .of (-1001282400) 3600, .of (-986162400) 0, .of (-969228000) 3600,
    .of (-950479200) 0, .of (-942012000) 3600, .of (-904518000) 7200, .of (-896050800) 3600,
    .of (-875487600) 7200, .of (-864601200) 3600, .of (-844038000) 7200, .of (-832546800) 3600,
    .of (-812588400) 7200, .of (-798073200) 3600, .of (-781052400) 7200, .of (-772066800) 3600,
    .of (-764805600) 0, .of (-748476000) 3600, .of (-733356000) 0, .of (-719445600) 3600,
    .of (-717030000) 7200, .of (-706748400) 3600, .of (-699487200) 0, .of (-687996000) 3600,
    .of (-668037600) 0, .of (-654732000) 3600, .of (-636588000) 0, .of (-622072800) 3600,
    .of (-605743200) 0, .of (-590623200) 3600, .of (-574293600) 0, .of (-558568800) 3600,
    .of (-542239200) 0, .of (-527119200) 3600, .of (-512604000) 0, .of (-496274400) 3600,
    .of (-481154400) 0, .of (-464220000) 3600, .of (-449704800) 0, .of (-432165600) 3600,
    .of (-417650400) 0, .of (-401320800) 3600, .of (-386200800) 0, .of (-369266400) 3600,
    .of (-354751200) 0, .of (-337816800) 3600, .of (-323301600) 0, .of (-306972000) 3600,
    .of (-291852000) 0, .of (-276732000) 3600, .of (-257983200) 0, .of (-245282400) 3600,
    .of (-226533600) 0, .of (-213228000) 3600, .of (-195084000) 0, .of (-182383200) 3600,
    .of (-163634400) 0, .of (-150933600) 3600, .of (-132184800) 0, .of (-119484000) 3600,
    .of (-100735200) 0, .of (-88034400) 3600, .of (-68680800) 0, .of (-59004000) 3600,
    .of (-37242000) 3600, .of 57718800 0, .of 69818400 3600, .of 89172000 0, .of 101268000 3600,
    .of 120621600 0, .of 132717600 3600, .of 152071200 0, .of 164167200 3600, .of 183520800 0,
    .of 196221600 3600, .of 214970400 0, .of 227671200 3600, .of 246420000 0, .of 259120800 3600,
    .of 278474400 0, .of 290570400 3600, .of 309924000 0, .of 322020000 3600, .of 341373600 0,
    .of 354675600 3600, .of 372819600 0, .of 386125200 3600, .of 404269200 0, .of 417574800 3600,
    .of 435718800 0, .of 449024400 3600, .of 467773200 0, .of 481078800 3600, .of 499222800 0,
    .of 512528400 3600, .of 530672400 0, .of 543978000 3600, .of 562122000 0, .of 575427600 3600,
    .of 593571600 0, .of 606877200 3600, .of 625626000 0, .of 638326800 3600, .of 657075600 0,
    .of 670381200 3600, .of 688525200 0, .of 701830800 3600, .of 719974800 0, .of 733280400 3600,
    .of 751424400 0, .of 764730000 3600, .of 782874000 0, .of 796179600 3600, .of 814323600 0,
    .of 828234000 3600, .of 846378000 0, .of 859683600 3600, .of 877827600 0, .of 891133200 3600,
    .of 909277200 0, .of 922582800 3600, .of 941331600 0, .of 954032400 3600, .of 972781200 0,
    .of 985482000 3600, .of 1004230800 0, .of 1017536400 3600, .of 1035680400 0,
    .of 1048986000 3600, .of 1067130000 0, .of 1080435600 3600, .of 1099184400 0,
    .of 1111885200 3600, .of 1130634000 0, .of 1143334800 3600, .of 1162083600 0,
    .of 1174784400 3600, .of 1193533200 0, .of 1206838800 3600, .of 1224982800 0,
    .of 1238288400 3600, .of 1256432400 0, .of 1269738000 3600, .of 1288486800 0,
    .of 1301187600 3600, .of 1319936400 0, .of 1332637200 3600, .of 1351386000 0,
    .of 1364691600 3600, .of 1382835600 0, .of 1396141200 3600, .of 1414285200 0,
    .of 1427590800 3600, .of 1445734800 0, .of 1459040400 3600, .of 1477789200 0,
    .of 1490490000 3600, .of 1509238800 0, .of 1521939600 3600, .of 1540688400 0,
    .of 1553994000 3600, .of 1572138000 0, .of 1585443600 3600, .of 1603587600 0,
    .of 1616893200 3600, .of 1635642000 0, .of 1648342800 3600, .of 1667091600 0,
    .of 1679792400 3600, .of 1698541200 0, .of 1711846800 3600, .of 1729990800 0,
    .of 1743296400 3600, .of 1761440400 0, .of 1774746000 3600, .of 1792890000 0,
    .of 1806195600 3600, .of 1824944400 0, .of 1837645200 3600, .of 1856394000 0,
    .of 1869094800 3600, .of 1887843600 0, .of 1901149200 3600, .of 1919293200 0,
    .of 1932598800 3600, .of 1950742800 0, .of 1964048400 3600, .of 1982797200 0,
    .of 1995498000 3600, .of 2014246800 0, .of 2026947600 3600, .of 2045696400 0,
    .of 2058397200 3600, .of 2077146000 0, .of 2090451600 3600, .of 2108595600 0,
    .of 2121901200 3600, .of 2140045200 0, .of 2153350800 3600, .of 2172099600 0,
    .of 2184800400 3600, .of 2203549200 0, .of 2216250000 3600, .of 2234998800 0,
    .of 2248304400 3600, .of 2266448400 0, .of 2279754000 3600, .of 2297898000 0,
    .of 2311203600 3600, .of 2329347600 0, .of 2342653200 3600, .of 2361402000 0,
    .of 2374102800 3600, .of 2392851600 0, .of 2405552400 3600, .of 2424301200 0,
    .of 2437606800 3600, .of 2455750800 0, .of 2469056400 3600, .of 2487200400 0,
    .of 2500506000 3600, .of 2519254800 0, .of 2531955600 3600, .of 2550704400 0,
    .of 2563405200 3600, .of 2582154000 0, .of 2595459600 3600, .of 2613603600 0,
    .of 2626909200 3600, .of 2645053200 0, .of 2658358800 3600, .of 2676502800 0,
    .of 2689808400 3600, .of 2708557200 0, .of 2721258000 3600, .of 2740006800 0,
    .of 2752707600 3600, .of 2771456400 0, .of 2784762000 3600, .of 2802906000 0,
    .of 2816211600 3600, .of 2834355600 0, .of 2847661200 3600, .of 2866410000 0,
    .of 2879110800 3600, .of 2897859600 0, .of 2910560400 3600, .of 2929309200 0,
    .of 2942010000 3600, .of 2960758800 0, .of 2974064400 3600, .of 2992208400 0,
    .of 3005514000 3600, .of 3023658000 0, .of 3036963600 3600, .of 3055712400 0,
    .of 3068413200 3600, .of 3087162000 0, .of 3099862800 3600, .of 3118611600 0,
    .of 3131917200 3600, .of 3150061200 0, .of 3163366800 3600, .of 3181510800 0,
    .of 3194816400 3600, .of 3212960400 0, .of 3226266000 3600, .of 3245014800 0,
    .of 3257715600 3600, .of 3276464400 0, .of 3289165200 3600, .of 3307914000 0,
    .of 3321219600 3600, .of 3339363600 0, .of 3352669200 3600, .of 3370813200 0,
    .of 3384118800 3600, .of 3402867600 0, .of 3415568400 3600, .of 3434317200 0,
    .of 3447018000 3600, .of 3465766800 0, .of 3479072400 3600, .of 3497216400 0,
    .of 3510522000 3600, .of 3528666000 0, .of 3541971600 3600, .of 3560115600 0,
    .of 3573421200 3600, .of 3592170000 0, .of 3604870800 3600, .of 3623619600 0,
    .of 3636320400 3600, .of 3655069200 0, .of 3668374800 3600, .of 3686518800 0,
    .of 3699824400 3600, .of 3717968400 0, .of 3731274000 3600, .of 3750022800 0,
    .of 3762723600 3600, .of 3781472400 0, .of 3794173200 3600, .of 3812922000 0,
    .of 3825622800 3600, .of 3844371600 0, .of 3857677200 3600, .of 3875821200 0,
    .of 3889126800 3600, .of 3907270800 0, .of 3920576400 3600, .of 3939325200 0,
    .of 3952026000 3600, .of 3970774800 0, .of 3983475600 3600, .of 4002224400 0,
    .of 4015530000 3600, .of 4033674000 0, .of 4046979600 3600, .of 4065123600 0,
    .of 4078429200 3600, .of 4096573200 0]

/-- The zone `Europe/Dublin`. -/
def dublin : Zone :=
  .ofTable "Europe/Dublin" (-1521)
   [.of (-2821649679) (-1521), .of (-1691962479) 2079, .of (-1680474879) 3600,
    .of (-1680472800) 0, .of (-1664143200) 3600, .of (-1650146400) 0, .of (-1633903200) 3600,
    .of (-1617487200) 0, .of (-1601848800) 3600, .of (-1586037600) 0, .of (-1570399200) 3600,
    .of (-1552168800) 0, .of (-1538344800) 3600, .of (-1522533600) 0, .of (-1507500000) 3600,
    .of (-1490565600) 0, .of (-1473631200) 3600, .of (-1460930400) 0, .of (-1442786400) 3600,
    .of (-1428876000) 0, .of (-1410732000) 3600, .of (-1396216800) 0, .of (-1379282400) 3600,
    .of (-1364767200) 0, .of (-1348437600) 3600, .of (-1333317600) 0, .of (-1315778400) 3600,
    .of (-1301263200) 0, .of (-1284328800) 3600, .of (-1269813600) 0, .of (-1253484000) 3600,
    .of (-1238364000) 0, .of (-1221429600) 3600, .of (-1206914400) 0, .of (-1189980000) 3600,
    .of (-1175464800) 0, .of (-1159135200) 3600, .of (-1143410400) 0, .of (-1126476000) 3600,
    .of (-1111960800) 0, .of (-1095631200) 3600, .of (-1080511200) 0, .of (-1063576800) 3600,
    .of (-1049061600) 0, .of (-1032127200) 3600, .of (-1017612000) 0, .of (-1001282400) 3600,
    .of (-986162400) 0, .of (-969228000) 3600, .of (-950479200) 0, .of (-942012000) 3600,
    .of (-733359600) 0, .of (-719445600) 3600, .of (-699490800) 0, .of (-684972000) 3600,
    .of (-668037600) 0, .of (-654732000) 3600, .of (-636588000) 0, .of (-622072800) 3600,
    .of (-605743200) 0, .of (-590623200) 3600, .of (-574293600) 0, .of (-558568800) 3600,
    .of (-542239200) 0, .of (-527119200) 3600, .of (-512604000) 0, .of (-496274400) 3600,
    .of (-481154400) 0, .of (-464220000) 3600, .of (-449704800) 0, .of (-432165600) 3600,
    .of (-417650400) 0, .of (-401320800) 3600, .of (-386200800) 0, .of (-369266400) 3600,
    .of (-354751200) 0, .of (-337816800) 3600, .of (-323301600) 0, .of (-306972000) 3600,
    .of (-291852000) 0, .of (-276732000) 3600, .of (-257983200) 0, .of (-245282400) 3600,
    .of (-226533600) 0, .of (-213228000) 3600, .of (-195084000) 0, .of (-182383200) 3600,
    .of (-163634400) 0, .of (-150933600) 3600, .of (-132184800) 0, .of (-119484000) 3600,
    .of (-100735200) 0, .of (-88034400) 3600, .of (-68680800) 0, .of (-59004000) 3600,
    .of (-37242000) 3600, .of 57722400 0, .of 69818400 3600, .of 89172000 0, .of 101268000 3600,
    .of 120621600 0, .of 132717600 3600, .of 152071200 0, .of 164167200 3600, .of 183520800 0,
    .of 196221600 3600, .of 214970400 0, .of 227671200 3600, .of 246420000 0, .of 259120800 3600,
    .of 278474400 0, .of 290570400 3600, .of 309924000 0, .of 322020000 3600, .of 341373600 0,
    .of 354675600 3600, .of 372819600 0, .of 386125200 3600, .of 404269200 0, .of 417574800 3600,
    .of 435718800 0, .of 449024400 3600, .of 467773200 0, .of 481078800 3600, .of 499222800 0,
    .of 512528400 3600, .of 530672400 0, .of 543978000 3600, .of 562122000 0, .of 575427600 3600,
    .of 593571600 0, .of 606877200 3600, .of 625626000 0, .of 638326800 3600, .of 657075600 0,
    .of 670381200 3600, .of 688525200 0, .of 701830800 3600, .of 719974800 0, .of 733280400 3600,
    .of 751424400 0, .of 764730000 3600, .of 782874000 0, .of 796179600 3600, .of 814323600 0,
    .of 828234000 3600, .of 846378000 0, .of 859683600 3600, .of 877827600 0, .of 891133200 3600,
    .of 909277200 0, .of 922582800 3600, .of 941331600 0, .of 954032400 3600, .of 972781200 0,
    .of 985482000 3600, .of 1004230800 0, .of 1017536400 3600, .of 1035680400 0,
    .of 1048986000 3600, .of 1067130000 0, .of 1080435600 3600, .of 1099184400 0,
    .of 1111885200 3600, .of 1130634000 0, .of 1143334800 3600, .of 1162083600 0,
    .of 1174784400 3600, .of 1193533200 0, .of 1206838800 3600, .of 1224982800 0,
    .of 1238288400 3600, .of 1256432400 0, .of 1269738000 3600, .of 1288486800 0,
    .of 1301187600 3600, .of 1319936400 0, .of 1332637200 3600, .of 1351386000 0,
    .of 1364691600 3600, .of 1382835600 0, .of 1396141200 3600, .of 1414285200 0,
    .of 1427590800 3600, .of 1445734800 0, .of 1459040400 3600, .of 1477789200 0,
    .of 1490490000 3600, .of 1509238800 0, .of 1521939600 3600, .of 1540688400 0,
    .of 1553994000 3600, .of 1572138000 0, .of 1585443600 3600, .of 1603587600 0,
    .of 1616893200 3600, .of 1635642000 0, .of 1648342800 3600, .of 1667091600 0,
    .of 1679792400 3600, .of 1698541200 0, .of 1711846800 3600, .of 1729990800 0,
    .of 1743296400 3600, .of 1761440400 0, .of 1774746000 3600, .of 1792890000 0,
    .of 1806195600 3600, .of 1824944400 0, .of 1837645200 3600, .of 1856394000 0,
    .of 1869094800 3600, .of 1887843600 0, .of 1901149200 3600, .of 1919293200 0,
    .of 1932598800 3600, .of 1950742800 0, .of 1964048400 3600, .of 1982797200 0,
    .of 1995498000 3600, .of 2014246800 0, .of 2026947600 3600, .of 2045696400 0,
    .of 2058397200 3600, .of 2077146000 0, .of 2090451600 3600, .of 2108595600 0,
    .of 2121901200 3600, .of 2140045200 0, .of 2153350800 3600, .of 2172099600 0,
    .of 2184800400 3600, .of 2203549200 0, .of 2216250000 3600, .of 2234998800 0,
    .of 2248304400 3600, .of 2266448400 0, .of 2279754000 3600, .of 2297898000 0,
    .of 2311203600 3600, .of 2329347600 0, .of 2342653200 3600, .of 2361402000 0,
    .of 2374102800 3600, .of 2392851600 0, .of 2405552400 3600, .of 2424301200 0,
    .of 2437606800 3600, .of 2455750800 0, .of 2469056400 3600, .of 2487200400 0,
    .of 2500506000 3600, .of 2519254800 0, .of 2531955600 3600, .of 2550704400 0,
    .of 2563405200 3600, .of 2582154000 0, .of 2595459600 3600, .of 2613603600 0,
    .of 2626909200 3600, .of 2645053200 0, .of 2658358800 3600, .of 2676502800 0,
    .of 2689808400 3600, .of 2708557200 0, .of 2721258000 3600, .of 2740006800 0,
    .of 2752707600 3600, .of 2771456400 0, .of 2784762000 3600, .of 2802906000 0,
    .of 2816211600 3600, .of 2834355600 0, .of 2847661200 3600, .of 2866410000 0,
    .of 2879110800 3600, .of 2897859600 0, .of 2910560400 3600, .of 2929309200 0,
    .of 2942010000 3600, .of 2960758800 0, .of 2974064400 3600, .of 2992208400 0,
    .of 3005514000 3600, .of 3023658000 0, .of 3036963600 3600, .of 3055712400 0,
    .of 3068413200 3600, .of 3087162000 0, .of 3099862800 3600, .of 3118611600 0,
    .of 3131917200 3600, .of 3150061200 0, .of 3163366800 3600, .of 3181510800 0,
    .of 3194816400 3600, .of 3212960400 0, .of 3226266000 3600, .of 3245014800 0,
    .of 3257715600 3600, .of 3276464400 0, .of 3289165200 3600, .of 3307914000 0,
    .of 3321219600 3600, .of 3339363600 0, .of 3352669200 3600, .of 3370813200 0,
    .of 3384118800 3600, .of 3402867600 0, .of 3415568400 3600, .of 3434317200 0,
    .of 3447018000 3600, .of 3465766800 0, .of 3479072400 3600, .of 3497216400 0,
    .of 3510522000 3600, .of 3528666000 0, .of 3541971600 3600, .of 3560115600 0,
    .of 3573421200 3600, .of 3592170000 0, .of 3604870800 3600, .of 3623619600 0,
    .of 3636320400 3600, .of 3655069200 0, .of 3668374800 3600, .of 3686518800 0,
    .of 3699824400 3600, .of 3717968400 0, .of 3731274000 3600, .of 3750022800 0,
    .of 3762723600 3600, .of 3781472400 0, .of 3794173200 3600, .of 3812922000 0,
    .of 3825622800 3600, .of 3844371600 0, .of 3857677200 3600, .of 3875821200 0,
    .of 3889126800 3600, .of 3907270800 0, .of 3920576400 3600, .of 3939325200 0,
    .of 3952026000 3600, .of 3970774800 0, .of 3983475600 3600, .of 4002224400 0,
    .of 4015530000 3600, .of 4033674000 0, .of 4046979600 3600, .of 4065123600 0,
    .of 4078429200 3600, .of 4096573200 0]

/-- The zone `Europe/Amsterdam`. -/
def amsterdam : Zone :=
  .ofTable "Europe/Amsterdam" 1050
   [.of (-2840141850) 1050, .of (-2450995200) 0, .of (-1740355200) 3600, .of (-1693702800) 7200,
    .of (-1680483600) 3600, .of (-1663455600) 7200, .of (-1650150000) 3600,
    .of (-1632006000) 7200, .of (-1618700400) 3600, .of (-1613829600) 0, .of (-1604278800) 3600,
    .of (-1585530000) 0, .of (-1574038800) 3600, .of (-1552266000) 0, .of (-1539997200) 3600,
    .of (-1520557200) 0, .of (-1507510800) 3600, .of (-1490576400) 0, .of (-1473642000) 3600,
    .of (-1459126800) 0, .of (-1444006800) 3600, .of (-1427677200) 0, .of (-1411952400) 3600,
    .of (-1396227600) 0, .of (-1379293200) 3600, .of (-1364778000) 0, .of (-1348448400) 3600,
    .of (-1333328400) 0, .of (-1316394000) 3600, .of (-1301263200) 0, .of (-1284328800) 3600,
    .of (-1269813600) 0, .of (-1253484000) 3600, .of (-1238364000) 0, .of (-1221429600) 3600,
    .of (-1206914400) 0, .of (-1191189600) 3600, .of (-1175464800) 0, .of (-1160344800) 3600,
    .of (-1143410400) 0, .of (-1127685600) 3600, .of (-1111960800) 0, .of (-1096840800) 3600,
    .of (-1080511200) 0, .of (-1063576800) 3600, .of (-1049061600) 0, .of (-1033336800) 3600,
    .of (-1017612000) 0, .of (-1002492000) 3600, .of (-986162400) 0, .of (-969228000) 3600,
    .of (-950479200) 0, .of (-942012000) 3600, .of (-934671600) 7200, .of (-857257200) 3600,
    .of (-844556400) 7200, .of (-828226800) 3600, .of (-812502000) 7200, .of (-798073200) 3600,
    .of (-781052400) 7200, .of (-766623600) 3600, .of (-745455600) 7200, .of (-733273200) 3600,
    .of 228877200 7200, .of 243997200 3600, .of 260326800 7200, .of 276051600 3600,
    .of 291776400 7200, .of 307501200 3600, .of 323830800 7200, .of 338950800 3600,
    .of 354675600 7200, .of 370400400 3600, .of 386125200 7200, .of 401850000 3600,
    .of 417574800 7200, .of 433299600 3600, .of 449024400 7200, .of 465354000 3600,
    .of 481078800 7200, .of 496803600 3600, .of 512528400 7200, .of 528253200 3600,
    .of 543978000 7200, .of 559702800 3600, .of 575427600 7200, .of 591152400 3600,
    .of 606877200 7200, .of 622602000 3600, .of 638326800 7200, .of 654656400 3600,
    .of 670381200 7200, .of 686106000 3600, .of 701830800 7200, .of 717555600 3600,
    .of 733280400 7200, .of 749005200 3600, .of 764730000 7200, .of 780454800 3600,
    .of 796179600 7200, .of 811904400 3600, .of 828234000 7200, .of 846378000 3600,
    .of 859683600 7200, .of 877827600 3600, .of 891133200 7200, .of 909277200 3600,
    .of 922582800 7200, .of 941331600 3600, .of 954032400 7200, .of 972781200 3600,
    .of 985482000 7200, .of 1004230800 3600, .of 1017536400 7200, .of 1035680400 3600,
    .of 1048986000 7200, .of 1067130000 3600, .of 1080435600 7200, .of 1099184400 3600,
    .of 1111885200 7200, .of 1130634000 3600, .of 1143334800 7200, .of 1162083600 3600,
    .of 1174784400 7200, .of 1193533200 3600, .of 1206838800 7200, .of 1224982800 3600,
    .of 1238288400 7200, .of 1256432400 3600, .of 1269738000 7200, .of 1288486800 3600,
    .of 1301187600 7200, .of 1319936400 3600, .of 1332637200 7200, .of 1351386000 3600,
    .of 1364691600 7200, .of 1382835600 3600, .of 1396141200 7200, .of 1414285200 3600,
    .of 1427590800 7200, .of 1445734800 3600, .of 1459040400 7200, .of 1477789200 3600,
    .of 1490490000 7200, .of 1509238800 3600, .of 1521939600 7200, .of 1540688400 3600,
    .of 1553994000 7200, .of 1572138000 3600, .of 1585443600 7200, .of 1603587600 3600,
    .of 1616893200 7200, .of 1635642000 3600, .of 1648342800 7200, .of 1667091600 3600,
    .of 1679792400 7200, .of 1698541200 3600, .of 1711846800 7200, .of 1729990800 3600,
    .of 1743296400 7200, .of 1761440400 3600, .of 1774746000 7200, .of 1792890000 3600,
    .of 1806195600 7200, .of 1824944400 3600, .of 1837645200 7200, .of 1856394000 3600,
    .of 1869094800 7200, .of 1887843600 3600, .of 1901149200 7200, .of 1919293200 3600,
    .of 1932598800 7200, .of 1950742800 3600, .of 1964048400 7200, .of 1982797200 3600,
    .of 1995498000 7200, .of 2014246800 3600, .of 2026947600 7200, .of 2045696400 3600,
    .of 2058397200 7200, .of 2077146000 3600, .of 2090451600 7200, .of 2108595600 3600,
    .of 2121901200 7200, .of 2140045200 3600, .of 2153350800 7200, .of 2172099600 3600,
    .of 2184800400 7200, .of 2203549200 3600, .of 2216250000 7200, .of 2234998800 3600,
    .of 2248304400 7200, .of 2266448400 3600, .of 2279754000 7200, .of 2297898000 3600,
    .of 2311203600 7200, .of 2329347600 3600, .of 2342653200 7200, .of 2361402000 3600,
    .of 2374102800 7200, .of 2392851600 3600, .of 2405552400 7200, .of 2424301200 3600,
    .of 2437606800 7200, .of 2455750800 3600, .of 2469056400 7200, .of 2487200400 3600,
    .of 2500506000 7200, .of 2519254800 3600, .of 2531955600 7200, .of 2550704400 3600,
    .of 2563405200 7200, .of 2582154000 3600, .of 2595459600 7200, .of 2613603600 3600,
    .of 2626909200 7200, .of 2645053200 3600, .of 2658358800 7200, .of 2676502800 3600,
    .of 2689808400 7200, .of 2708557200 3600, .of 2721258000 7200, .of 2740006800 3600,
    .of 2752707600 7200, .of 2771456400 3600, .of 2784762000 7200, .of 2802906000 3600,
    .of 2816211600 7200, .of 2834355600 3600, .of 2847661200 7200, .of 2866410000 3600,
    .of 2879110800 7200, .of 2897859600 3600, .of 2910560400 7200, .of 2929309200 3600,
    .of 2942010000 7200, .of 2960758800 3600, .of 2974064400 7200, .of 2992208400 3600,
    .of 3005514000 7200, .of 3023658000 3600, .of 3036963600 7200, .of 3055712400 3600,
    .of 3068413200 7200, .of 3087162000 3600, .of 3099862800 7200, .of 3118611600 3600,
    .of 3131917200 7200, .of 3150061200 3600, .of 3163366800 7200, .of 3181510800 3600,
    .of 3194816400 7200, .of 3212960400 3600, .of 3226266000 7200, .of 3245014800 3600,
    .of 3257715600 7200, .of 3276464400 3600, .of 3289165200 7200, .of 3307914000 3600,
    .of 3321219600 7200, .of 3339363600 3600, .of 3352669200 7200, .of 3370813200 3600,
    .of 3384118800 7200, .of 3402867600 3600, .of 3415568400 7200, .of 3434317200 3600,
    .of 3447018000 7200, .of 3465766800 3600, .of 3479072400 7200, .of 3497216400 3600,
    .of 3510522000 7200, .of 3528666000 3600, .of 3541971600 7200, .of 3560115600 3600,
    .of 3573421200 7200, .of 3592170000 3600, .of 3604870800 7200, .of 3623619600 3600,
    .of 3636320400 7200, .of 3655069200 3600, .of 3668374800 7200, .of 3686518800 3600,
    .of 3699824400 7200, .of 3717968400 3600, .of 3731274000 7200, .of 3750022800 3600,
    .of 3762723600 7200, .of 3781472400 3600, .of 3794173200 7200, .of 3812922000 3600,
    .of 3825622800 7200, .of 3844371600 3600, .of 3857677200 7200, .of 3875821200 3600,
    .of 3889126800 7200, .of 3907270800 3600, .of 3920576400 7200, .of 3939325200 3600,
    .of 3952026000 7200, .of 3970774800 3600, .of 3983475600 7200, .of 4002224400 3600,
    .of 4015530000 7200, .of 4033674000 3600, .of 4046979600 7200, .of 4065123600 3600,
    .of 4078429200 7200, .of 4096573200 3600]

end QueryResult.Zone
