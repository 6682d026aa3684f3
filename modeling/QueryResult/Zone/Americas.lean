import QueryResult.Zone.Basic

/-!
# Zones of the Americas

Each row is a second of UTC and the offset, in seconds ahead of UTC, that is in force from it on.
The rows are those of the tz database and end with the year 2099.
-/

namespace QueryResult.Zone

/-- The zone `America/New_York`. -/
def newYork : Zone :=
  .ofTable "America/New_York" (-17762)
   [.of (-2717633038) (-18000), .of (-1633280400) (-14400), .of (-1615140000) (-18000),
    .of (-1601830800) (-14400), .of (-1583690400) (-18000), .of (-1570381200) (-14400),
    .of (-1551636000) (-18000), .of (-1536512400) (-14400), .of (-1523210400) (-18000),
    .of (-1504458000) (-14400), .of (-1491760800) (-18000), .of (-1473008400) (-14400),
    .of (-1459706400) (-18000), .of (-1441558800) (-14400), .of (-1428256800) (-18000),
    .of (-1410109200) (-14400), .of (-1396807200) (-18000), .of (-1378659600) (-14400),
    .of (-1365357600) (-18000), .of (-1347210000) (-14400), .of (-1333908000) (-18000),
    .of (-1315155600) (-14400), .of (-1301853600) (-18000), .of (-1283706000) (-14400),
    .of (-1270404000) (-18000), .of (-1252256400) (-14400), .of (-1238954400) (-18000),
    .of (-1220806800) (-14400), .of (-1207504800) (-18000), .of (-1189357200) (-14400),
    .of (-1176055200) (-18000), .of (-1157302800) (-14400), .of (-1144605600) (-18000),
    .of (-1125853200) (-14400), .of (-1112551200) (-18000), .of (-1094403600) (-14400),
    .of (-1081101600) (-18000), .of (-1062954000) (-14400), .of (-1049652000) (-18000),
    .of (-1031504400) (-14400), .of (-1018202400) (-18000), .of (-1000054800) (-14400),
    .of (-986752800) (-18000), .of (-968000400) (-14400), .of (-955303200) (-18000),
    .of (-936550800) (-14400), .of (-923248800) (-18000), .of (-905101200) (-14400),
    .of (-891799200) (-18000), .of (-880218000) (-14400), .of (-769395600) (-14400),
    .of (-765396000) (-18000), .of (-747248400) (-14400), .of (-733946400) (-18000),
    .of (-715798800) (-14400), .of (-702496800) (-18000), .of (-684349200) (-14400),
    .of (-671047200) (-18000), .of (-652899600) (-14400), .of (-639597600) (-18000),
    .of (-620845200) (-14400), .of (-608148000) (-18000), .of (-589395600) (-14400),
    .of (-576093600) (-18000), .of (-557946000) (-14400), .of (-544644000) (-18000),
    .of (-526496400) (-14400), .of (-513194400) (-18000), .of (-495046800) (-14400),
    .of (-481744800) (-18000), .of (-463597200) (-14400), .of (-447271200) (-18000),
    .of (-431542800) (-14400), .of (-415821600) (-18000), .of (-400093200) (-14400),
    .of (-384372000) (-18000), .of (-368643600) (-14400), .of (-352922400) (-18000),
    .of (-337194000) (-14400), .of (-321472800) (-18000), .of (-305744400) (-14400),
    .of (-289418400) (-18000), .of (-273690000) (-14400), .of (-257968800) (-18000),
    .of (-242240400) (-14400), .of (-226519200) (-18000), .of (-210790800) (-14400),
    .of (-195069600) (-18000), .of (-179341200) (-14400), .of (-163620000) (-18000),
    .of (-147891600) (-14400), .of (-131565600) (-18000), .of (-116442000) (-14400),
    .of (-100116000) (-18000), .of (-84387600) (-14400), .of (-68666400) (-18000),
    .of (-52938000) (-14400), .of (-37216800) (-18000), .of (-21488400) (-14400),
    .of (-5767200) (-18000), .of 9961200 (-14400), .of 25682400 (-18000), .of 41410800 (-14400),
    .of 57736800 (-18000), .of 73465200 (-14400), .of 89186400 (-18000), .of 104914800 (-14400),
    .of 120636000 (-18000), .of 126687600 (-14400), .of 152085600 (-18000),
    .of 162370800 (-14400), .of 183535200 (-18000), .of 199263600 (-14400),
    .of 215589600 (-18000), .of 230713200 (-14400), .of 247039200 (-18000),
    .of 262767600 (-14400), .of 278488800 (-18000), .of 294217200 (-14400),
    .of 309938400 (-18000), .of 325666800 (-14400), .of 341388000 (-18000),
    .of 357116400 (-14400), .of 372837600 (-18000), .of 388566000 (-14400),
    .of 404892000 (-18000), .of 420015600 (-14400), .of 436341600 (-18000),
    .of 452070000 (-14400), .of 467791200 (-18000), .of 483519600 (-14400),
    .of 499240800 (-18000), .of 514969200 (-14400), .of 530690400 (-18000),
    .of 544604400 (-14400), .of 562140000 (-18000), .of 576054000 (-14400),
    .of 594194400 (-18000), .of 607503600 (-14400), .of 625644000 (-18000),
    .of 638953200 (-14400), .of 657093600 (-18000), .of 671007600 (-14400),
    .of 688543200 (-18000), .of 702457200 (-14400), .of 719992800 (-18000),
    .of 733906800 (-14400), .of 752047200 (-18000), .of 765356400 (-14400),
    .of 783496800 (-18000), .of 796806000 (-14400), .of 814946400 (-18000),
    .of 828860400 (-14400), .of 846396000 (-18000), .of 860310000 (-14400),
    .of 877845600 (-18000), .of 891759600 (-14400), .of 909295200 (-18000),
    .of 923209200 (-14400), .of 941349600 (-18000), .of 954658800 (-14400),
    .of 972799200 (-18000), .of 986108400 (-14400), .of 1004248800 (-18000),
    .of 1018162800 (-14400), .of 1035698400 (-18000), .of 1049612400 (-14400),
    .of 1067148000 (-18000), .of 1081062000 (-14400), .of 1099202400 (-18000),
    .of 1112511600 (-14400), .of 1130652000 (-18000), .of 1143961200 (-14400),
    .of 1162101600 (-18000), .of 1173596400 (-14400), .of 1194156000 (-18000),
    .of 1205046000 (-14400), .of 1225605600 (-18000), .of 1236495600 (-14400),
    .of 1257055200 (-18000), .of 1268550000 (-14400), .of 1289109600 (-18000),
    .of 1299999600 (-14400), .of 1320559200 (-18000), .of 1331449200 (-14400),
    .of 1352008800 (-18000), .of 1362898800 (-14400), .of 1383458400 (-18000),
    .of 1394348400 (-14400), .of 1414908000 (-18000), .of 1425798000 (-14400),
    .of 1446357600 (-18000), .of 1457852400 (-14400), .of 1478412000 (-18000),
    .of 1489302000 (-14400), .of 1509861600 (-18000), .of 1520751600 (-14400),
    .of 1541311200 (-18000), .of 1552201200 (-14400), .of 1572760800 (-18000),
    .of 1583650800 (-14400), .of 1604210400 (-18000), .of 1615705200 (-14400),
    .of 1636264800 (-18000), .of 1647154800 (-14400), .of 1667714400 (-18000),
    .of 1678604400 (-14400), .of 1699164000 (-18000), .of 1710054000 (-14400),
    .of 1730613600 (-18000), .of 1741503600 (-14400), .of 1762063200 (-18000),
    .of 1772953200 (-14400), .of 1793512800 (-18000), .of 1805007600 (-14400),
    .of 1825567200 (-18000), .of 1836457200 (-14400), .of 1857016800 (-18000),
    .of 1867906800 (-14400), .of 1888466400 (-18000), .of 1899356400 (-14400),
    .of 1919916000 (-18000), .of 1930806000 (-14400), .of 1951365600 (-18000),
    .of 1962860400 (-14400), .of 1983420000 (-18000), .of 1994310000 (-14400),
    .of 2014869600 (-18000), .of 2025759600 (-14400), .of 2046319200 (-18000),
    .of 2057209200 (-14400), .of 2077768800 (-18000), .of 2088658800 (-14400),
    .of 2109218400 (-18000), .of 2120108400 (-14400), .of 2140668000 (-18000),
    .of 2152162800 (-14400), .of 2172722400 (-18000), .of 2183612400 (-14400),
    .of 2204172000 (-18000), .of 2215062000 (-14400), .of 2235621600 (-18000),
    .of 2246511600 (-14400), .of 2267071200 (-18000), .of 2277961200 (-14400),
    .of 2298520800 (-18000), .of 2309410800 (-14400), .of 2329970400 (-18000),
    .of 2341465200 (-14400), .of 2362024800 (-18000), .of 2372914800 (-14400),
    .of 2393474400 (-18000), .of 2404364400 (-14400), .of 2424924000 (-18000),
    .of 2435814000 (-14400), .of 2456373600 (-18000), .of 2467263600 (-14400),
    .of 2487823200 (-18000), .of 2499318000 (-14400), .of 2519877600 (-18000),
    .of 2530767600 (-14400), .of 2551327200 (-18000), .of 2562217200 (-14400),
    .of 2582776800 (-18000), .of 2593666800 (-14400), .of 2614226400 (-18000),
    .of 2625116400 (-14400), .of 2645676000 (-18000), .of 2656566000 (-14400),
    .of 2677125600 (-18000), .of 2688620400 (-14400), .of 2709180000 (-18000),
    .of 2720070000 (-14400), .of 2740629600 (-18000), .of 2751519600 (-14400),
    .of 2772079200 (-18000), .of 2782969200 (-14400), .of 2803528800 (-18000),
    .of 2814418800 (-14400), .of 2834978400 (-18000), .of 2846473200 (-14400),
    .of 2867032800 (-18000), .of 2877922800 (-14400), .of 2898482400 (-18000),
    .of 2909372400 (-14400), .of 2929932000 (-18000), .of 2940822000 (-14400),
    .of 2961381600 (-18000), .of 2972271600 (-14400), .of 2992831200 (-18000),
    .of 3003721200 (-14400), .of 3024280800 (-18000), .of 3035775600 (-14400),
    .of 3056335200 (-18000), .of 3067225200 (-14400), .of 3087784800 (-18000),
    .of 3098674800 (-14400), .of 3119234400 (-18000), .of 3130124400 (-14400),
    .of 3150684000 (-18000), .of 3161574000 (-14400), .of 3182133600 (-18000),
    .of 3193023600 (-14400), .of 3213583200 (-18000), .of 3225078000 (-14400),
    .of 3245637600 (-18000), .of 3256527600 (-14400), .of 3277087200 (-18000),
    .of 3287977200 (-14400), .of 3308536800 (-18000), .of 3319426800 (-14400),
    .of 3339986400 (-18000), .of 3350876400 (-14400), .of 3371436000 (-18000),
    .of 3382930800 (-14400), .of 3403490400 (-18000), .of 3414380400 (-14400),
    .of 3434940000 (-18000), .of 3445830000 (-14400), .of 3466389600 (-18000),
    .of 3477279600 (-14400), .of 3497839200 (-18000), .of 3508729200 (-14400),
    .of 3529288800 (-18000), .of 3540178800 (-14400), .of 3560738400 (-18000),
    .of 3572233200 (-14400), .of 3592792800 (-18000), .of 3603682800 (-14400),
    .of 3624242400 (-18000), .of 3635132400 (-14400), .of 3655692000 (-18000),
    .of 3666582000 (-14400), .of 3687141600 (-18000), .of 3698031600 (-14400),
    .of 3718591200 (-18000), .of 3730086000 (-14400), .of 3750645600 (-18000),
    .of 3761535600 (-14400), .of 3782095200 (-18000), .of 3792985200 (-14400),
    .of 3813544800 (-18000), .of 3824434800 (-14400), .of 3844994400 (-18000),
    .of 3855884400 (-14400), .of 3876444000 (-18000), .of 3887334000 (-14400),
    .of 3907893600 (-18000), .of 3919388400 (-14400), .of 3939948000 (-18000),
    .of 3950838000 (-14400), .of 3971397600 (-18000), .of 3982287600 (-14400),
    .of 4002847200 (-18000), .of 4013737200 (-14400), .of 4034296800 (-18000),
    .of 4045186800 (-14400), .of 4065746400 (-18000), .of 4076636400 (-14400),
    .of 4097196000 (-18000)]

/-- The zone `America/Los_Angeles`. -/
def losAngeles : Zone :=
  .ofTable "America/Los_Angeles" (-28378)
   [.of (-2717611622) (-28800), .of (-1633269600) (-25200), .of (-1615129200) (-28800),
    .of (-1601820000) (-25200), .of (-1583679600) (-28800), .of (-880207200) (-25200),
    .of (-769395600) (-25200), .of (-765385200) (-28800), .of (-687967140) (-25200),
    .of (-662655600) (-28800), .of (-620838000) (-25200), .of (-608137200) (-28800),
    .of (-589388400) (-25200), .of (-576082800) (-28800), .of (-557938800) (-25200),
    .of (-544633200) (-28800), .of (-526489200) (-25200), .of (-513183600) (-28800),
    .of (-495039600) (-25200), .of (-481734000) (-28800), .of (-463590000) (-25200),
    .of (-450284400) (-28800), .of (-431535600) (-25200), .of (-418230000) (-28800),
    .of (-400086000) (-25200), .of (-386780400) (-28800), .of (-368636400) (-25200),
    .of (-355330800) (-28800), .of (-337186800) (-25200), .of (-323881200) (-28800),
    .of (-305737200) (-25200), .of (-292431600) (-28800), .of (-273682800) (-25200),
    .of (-260982000) (-28800), .of (-242233200) (-25200), .of (-226508400) (-28800),
    .of (-210783600) (-25200), .of (-195058800) (-28800), .of (-179334000) (-25200),
    .of (-163609200) (-28800), .of (-147884400) (-25200), .of (-131554800) (-28800),
    .of (-116434800) (-25200), .of (-100105200) (-28800), .of (-84376800) (-25200),
    .of (-68655600) (-28800), .of (-52927200) (-25200), .of (-37206000) (-28800),
    .of (-21477600) (-25200), .of (-5756400) (-28800), .of 9972000 (-25200),
    .of 25693200 (-28800), .of 41421600 (-25200), .of 57747600 (-28800), .of 73476000 (-25200),
    .of 89197200 (-28800), .of 104925600 (-25200), .of 120646800 (-28800), .of 126698400 (-25200),
    .of 152096400 (-28800), .of 162381600 (-25200), .of 183546000 (-28800),
    .of 199274400 (-25200), .of 215600400 (-28800), .of 230724000 (-25200),
    .of 247050000 (-28800), .of 262778400 (-25200), .of 278499600 (-28800),
    .of 294228000 (-25200), .of 309949200 (-28800), .of 325677600 (-25200),
    .of 341398800 (-28800), .of 357127200 (-25200), .of 372848400 (-28800),
    .of 388576800 (-25200), .of 404902800 (-28800), .of 420026400 (-25200),
    .of 436352400 (-28800), .of 452080800 (-25200), .of 467802000 (-28800),
    .of 483530400 (-25200), .of 499251600 (-28800), .of 514980000 (-25200),
    .of 530701200 (-28800), .of 544615200 (-25200), .of 562150800 (-28800),
    .of 576064800 (-25200), .of 594205200 (-28800), .of 607514400 (-25200),
    .of 625654800 (-28800), .of 638964000 (-25200), .of 657104400 (-28800),
    .of 671018400 (-25200), .of 688554000 (-28800), .of 702468000 (-25200),
    .of 720003600 (-28800), .of 733917600 (-25200), .of 752058000 (-28800),
    .of 765367200 (-25200), .of 783507600 (-28800), .of 796816800 (-25200),
    .of 814957200 (-28800), .of 828871200 (-25200), .of 846406800 (-28800),
    .of 860320800 (-25200), .of 877856400 (-28800), .of 891770400 (-25200),
    .of 909306000 (-28800), .of 923220000 (-25200), .of 941360400 (-28800),
    .of 954669600 (-25200), .of 972810000 (-28800), .of 986119200 (-25200),
    .of 1004259600 (-28800), .of 1018173600 (-25200), .of 1035709200 (-28800),
    .of 1049623200 (-25200), .of 1067158800 (-28800), .of 1081072800 (-25200),
    .of 1099213200 (-28800), .of 1112522400 (-25200), .of 1130662800 (-28800),
    .of 1143972000 (-25200), .of 1162112400 (-28800), .of 1173607200 (-25200),
    .of 1194166800 (-28800), .of 1205056800 (-25200), .of 1225616400 (-28800),
    .of 1236506400 (-25200), .of 1257066000 (-28800), .of 1268560800 (-25200),
    .of 1289120400 (-28800), .of 1300010400 (-25200), .of 1320570000 (-28800),
    .of 1331460000 (-25200), .of 1352019600 (-28800), .of 1362909600 (-25200),
    .of 1383469200 (-28800), .of 1394359200 (-25200), .of 1414918800 (-28800),
    .of 1425808800 (-25200), .of 1446368400 (-28800), .of 1457863200 (-25200),
    .of 1478422800 (-28800), .of 1489312800 (-25200), .of 1509872400 (-28800),
    .of 1520762400 (-25200), .of 1541322000 (-28800), .of 1552212000 (-25200),
    .of 1572771600 (-28800), .of 1583661600 (-25200), .of 1604221200 (-28800),
    .of 1615716000 (-25200), .of 1636275600 (-28800), .of 1647165600 (-25200),
    .of 1667725200 (-28800), .of 1678615200 (-25200), .of 1699174800 (-28800),
    .of 1710064800 (-25200), .of 1730624400 (-28800), .of 1741514400 (-25200),
    .of 1762074000 (-28800), .of 1772964000 (-25200), .of 1793523600 (-28800),
    .of 1805018400 (-25200), .of 1825578000 (-28800), .of 1836468000 (-25200),
    .of 1857027600 (-28800), .of 1867917600 (-25200), .of 1888477200 (-28800),
    .of 1899367200 (-25200), .of 1919926800 (-28800), .of 1930816800 (-25200),
    .of 1951376400 (-28800), .of 1962871200 (-25200), .of 1983430800 (-28800),
    .of 1994320800 (-25200), .of 2014880400 (-28800), .of 2025770400 (-25200),
    .of 2046330000 (-28800), .of 2057220000 (-25200), .of 2077779600 (-28800),
    .of 2088669600 (-25200), .of 2109229200 (-28800), .of 2120119200 (-25200),
    .of 2140678800 (-28800), .of 2152173600 (-25200), .of 2172733200 (-28800),
    .of 2183623200 (-25200), .of 2204182800 (-28800), .of 2215072800 (-25200),
    .of 2235632400 (-28800), .of 2246522400 (-25200), .of 2267082000 (-28800),
    .of 2277972000 (-25200), .of 2298531600 (-28800), .of 2309421600 (-25200),
    .of 2329981200 (-28800), .of 2341476000 (-25200), .of 2362035600 (-28800),
    .of 2372925600 (-25200), .of 2393485200 (-28800), .of 2404375200 (-25200),
    .of 2424934800 (-28800), .of 2435824800 (-25200), .of 2456384400 (-28800),
    .of 2467274400 (-25200), .of 2487834000 (-28800), .of 2499328800 (-25200),
    .of 2519888400 (-28800), .of 2530778400 (-25200), .of 2551338000 (-28800),
    .of 2562228000 (-25200), .of 2582787600 (-28800), .of 2593677600 (-25200),
    .of 2614237200 (-28800), .of 2625127200 (-25200), .of 2645686800 (-28800),
    .of 2656576800 (-25200), .of 2677136400 (-28800), .of 2688631200 (-25200),
    .of 2709190800 (-28800), .of 2720080800 (-25200), .of 2740640400 (-28800),
    .of 2751530400 (-25200), .of 2772090000 (-28800), .of 2782980000 (-25200),
    .of 2803539600 (-28800), .of 2814429600 (-25200), .of 2834989200 (-28800),
    .of 2846484000 (-25200), .of 2867043600 (-28800), .of 2877933600 (-25200),
    .of 2898493200 (-28800), .of 2909383200 (-25200), .of 2929942800 (-28800),
    .of 2940832800 (-25200), .of 2961392400 (-28800), .of 2972282400 (-25200),
    .of 2992842000 (-28800), .of 3003732000 (-25200), .of 3024291600 (-28800),
    .of 3035786400 (-25200), .of 3056346000 (-28800), .of 3067236000 (-25200),
    .of 3087795600 (-28800), .of 3098685600 (-25200), .of 3119245200 (-28800),
    .of 3130135200 (-25200), .of 3150694800 (-28800), .of 3161584800 (-25200),
    .of 3182144400 (-28800), .of 3193034400 (-25200), .of 3213594000 (-28800),
    .of 3225088800 (-25200), .of 3245648400 (-28800), .of 3256538400 (-25200),
    .of 3277098000 (-28800), .of 3287988000 (-25200), .of 3308547600 (-28800),
    .of 3319437600 (-25200), .of 3339997200 (-28800), .of 3350887200 (-25200),
    .of 3371446800 (-28800), .of 3382941600 (-25200), .of 3403501200 (-28800),
    .of 3414391200 (-25200), .of 3434950800 (-28800), .of 3445840800 (-25200),
    .of 3466400400 (-28800), .of 3477290400 (-25200), .of 3497850000 (-28800),
    .of 3508740000 (-25200), .of 3529299600 (-28800), .of 3540189600 (-25200),
    .of 3560749200 (-28800), .of 3572244000 (-25200), .of 3592803600 (-28800),
    .of 3603693600 (-25200), .of 3624253200 (-28800), .of 3635143200 (-25200),
    .of 3655702800 (-28800), .of 3666592800 (-25200), .of 3687152400 (-28800),
    .of 3698042400 (-25200), .of 3718602000 (-28800), .of 3730096800 (-25200),
    .of 3750656400 (-28800), .of 3761546400 (-25200), .of 3782106000 (-28800),
    .of 3792996000 (-25200), .of 3813555600 (-28800), .of 3824445600 (-25200),
    .of 3845005200 (-28800), .of 3855895200 (-25200), .of 3876454800 (-28800),
    .of 3887344800 (-25200), .of 3907904400 (-28800), .of 3919399200 (-25200),
    .of 3939958800 (-28800), .of 3950848800 (-25200), .of 3971408400 (-28800),
    .of 3982298400 (-25200), .of 4002858000 (-28800), .of 4013748000 (-25200),
    .of 4034307600 (-28800), .of 4045197600 (-25200), .of 4065757200 (-28800),
    .of 4076647200 (-25200), .of 4097206800 (-28800)]

/-- The zone `America/St_Johns`. -/
def stJohns : Zone :=
  .ofTable "America/St_Johns" (-12652)
   [.of (-2713897748) (-12652), .of (-1664130548) (-9052), .of (-1650137348) (-12652),
    .of (-1632076148) (-9052), .of (-1615145348) (-12652), .of (-1598650148) (-9052),
    .of (-1590100148) (-12652), .of (-1567286948) (-9052), .of (-1551565748) (-12652),
    .of (-1535837348) (-9052), .of (-1520116148) (-12652), .of (-1503782948) (-9052),
    .of (-1488666548) (-12652), .of (-1472333348) (-9052), .of (-1457216948) (-12652),
    .of (-1440883748) (-9052), .of (-1425767348) (-12652), .of (-1409434148) (-9052),
    .of (-1394317748) (-12652), .of (-1377984548) (-9052), .of (-1362263348) (-12652),
    .of (-1346534948) (-9052), .of (-1330813748) (-12652), .of (-1314480548) (-9052),
    .of (-1299364148) (-12652), .of (-1283030948) (-9052), .of (-1267914548) (-12652),
    .of (-1251581348) (-9052), .of (-1236464948) (-12652), .of (-1220131748) (-9052),
    .of (-1205015348) (-12652), .of (-1188682148) (-9052), .of (-1172960948) (-12652),
    .of (-1156627748) (-9052), .of (-1141511348) (-12652), .of (-1125178148) (-9052),
    .of (-1110061748) (-12652), .of (-1096921748) (-12600), .of (-1093728600) (-9000),
    .of (-1078612200) (-12600), .of (-1061670600) (-9000), .of (-1048973400) (-12600),
    .of (-1030221000) (-9000), .of (-1017523800) (-12600), .of (-998771400) (-9000),
    .of (-986074200) (-12600), .of (-966717000) (-9000), .of (-954624600) (-12600),
    .of (-935267400) (-9000), .of (-922570200) (-12600), .of (-903817800) (-9000),
    .of (-891120600) (-12600), .of (-872368200) (-9000), .of (-769395600) (-9000),
    .of (-765401400) (-12600), .of (-746044200) (-9000), .of (-733347000) (-12600),
    .of (-714594600) (-9000), .of (-701897400) (-12600), .of (-683145000) (-9000),
    .of (-670447800) (-12600), .of (-651695400) (-9000), .of (-638998200) (-12600),
    .of (-619641000) (-9000), .of (-606943800) (-12600), .of (-589401000) (-9000),
    .of (-576099000) (-12600), .of (-557951400) (-9000), .of (-544649400) (-12600),
    .of (-526501800) (-9000), .of (-513199800) (-12600), .of (-495052200) (-9000),
    .of (-481750200) (-12600), .of (-463602600) (-9000), .of (-450300600) (-12600),
    .of (-431548200) (-9000), .of (-418246200) (-12600), .of (-400098600) (-9000),
    .of (-386796600) (-12600), .of (-368649000) (-9000), .of (-355347000) (-12600),
    .of (-337199400) (-9000), .of (-323897400) (-12600), .of (-305749800) (-9000),
    .of (-289423800) (-12600), .of (-273695400) (-9000), .of (-257974200) (-12600),
    .of (-242245800) (-9000), .of (-226524600) (-12600), .of (-210796200) (-9000),
    .of (-195075000) (-12600), .of (-179346600) (-9000), .of (-163625400) (-12600),
    .of (-147897000) (-9000), .of (-131571000) (-12600), .of (-116447400) (-9000),
    .of (-100121400) (-12600), .of (-84393000) (-9000), .of (-68671800) (-12600),
    .of (-52943400) (-9000), .of (-37222200) (-12600), .of (-21493800) (-9000),
    .of (-5772600) (-12600), .of 9955800 (-9000), .of 25677000 (-12600), .of 41405400 (-9000),
    .of 57731400 (-12600), .of 73459800 (-9000), .of 89181000 (-12600), .of 104909400 (-9000),
    .of 120630600 (-12600), .of 136359000 (-9000), .of 152080200 (-12600), .of 167808600 (-9000),
    .of 183529800 (-12600), .of 199258200 (-9000), .of 215584200 (-12600), .of 230707800 (-9000),
    .of 247033800 (-12600), .of 262762200 (-9000), .of 278483400 (-12600), .of 294211800 (-9000),
    .of 309933000 (-12600), .of 325661400 (-9000), .of 341382600 (-12600), .of 357111000 (-9000),
    .of 372832200 (-12600), .of 388560600 (-9000), .of 404886600 (-12600), .of 420010200 (-9000),
    .of 436336200 (-12600), .of 452064600 (-9000), .of 467785800 (-12600), .of 483514200 (-9000),
    .of 499235400 (-12600), .of 514963800 (-9000), .of 530685000 (-12600), .of 544591860 (-9000),
    .of 562127460 (-12600), .of 576041460 (-5400), .of 594178260 (-12600), .of 607491060 (-9000),
    .of 625631460 (-12600), .of 638940660 (-9000), .of 657081060 (-12600), .of 670995060 (-9000),
    .of 688530660 (-12600), .of 702444660 (-9000), .of 719980260 (-12600), .of 733894260 (-9000),
    .of 752034660 (-12600), .of 765343860 (-9000), .of 783484260 (-12600), .of 796793460 (-9000),
    .of 814933860 (-12600), .of 828847860 (-9000), .of 846383460 (-12600), .of 860297460 (-9000),
    .of 877833060 (-12600), .of 891747060 (-9000), .of 909282660 (-12600), .of 923196660 (-9000),
    .of 941337060 (-12600), .of 954646260 (-9000), .of 972786660 (-12600), .of 986095860 (-9000),
    .of 1004236260 (-12600), .of 1018150260 (-9000), .of 1035685860 (-12600),
    .of 1049599860 (-9000), .of 1067135460 (-12600), .of 1081049460 (-9000),
    .of 1099189860 (-12600), .of 1112499060 (-9000), .of 1130639460 (-12600),
    .of 1143948660 (-9000), .of 1162089060 (-12600), .of 1173583860 (-9000),
    .of 1194143460 (-12600), .of 1205033460 (-9000), .of 1225593060 (-12600),
    .of 1236483060 (-9000), .of 1257042660 (-12600), .of 1268537460 (-9000),
    .of 1289097060 (-12600), .of 1299987060 (-9000), .of 1320553800 (-12600),
    .of 1331443800 (-9000), .of 1352003400 (-12600), .of 1362893400 (-9000),
    .of 1383453000 (-12600), .of 1394343000 (-9000), .of 1414902600 (-12600),
    .of 1425792600 (-9000), .of 1446352200 (-12600), .of 1457847000 (-9000),
    .of 1478406600 (-12600), .of 1489296600 (-9000), .of 1509856200 (-12600),
    .of 1520746200 (-9000), .of 1541305800 (-12600), .of 1552195800 (-9000),
    .of 1572755400 (-12600), .of 1583645400 (-9000), .of 1604205000 (-12600),
    .of 1615699800 (-9000), .of 1636259400 (-12600), .of 1647149400 (-9000),
    .of 1667709000 (-12600), .of 1678599000 (-9000), .of 1699158600 (-12600),
    .of 1710048600 (-9000), .of 1730608200 (-12600), .of 1741498200 (-9000),
    .of 1762057800 (-12600), .of 1772947800 (-9000), .of 1793507400 (-12600),
    .of 1805002200 (-9000), .of 1825561800 (-12600), .of 1836451800 (-9000),
    .of 1857011400 (-12600), .of 1867901400 (-9000), .of 1888461000 (-12600),
    .of 1899351000 (-9000), .of 1919910600 (-12600), .of 1930800600 (-9000),
    .of 1951360200 (-12600), .of 1962855000 (-9000), .of 1983414600 (-12600),
    .of 1994304600 (-9000), .of 2014864200 (-12600), .of 2025754200 (-9000),
    .of 2046313800 (-12600), .of 2057203800 (-9000), .of 2077763400 (-12600),
    .of 2088653400 (-9000), .of 2109213000 (-12600), .of 2120103000 (-9000),
    .of 2140662600 (-12600), .of 2152157400 (-9000), .of 2172717000 (-12600),
    .of 2183607000 (-9000), .of 2204166600 (-12600), .of 2215056600 (-9000),
    .of 2235616200 (-12600), .of 2246506200 (-9000), .of 2267065800 (-12600),
    .of 2277955800 (-9000), .of 2298515400 (-12600), .of 2309405400 (-9000),
    .of 2329965000 (-12600), .of 2341459800 (-9000), .of 2362019400 (-12600),
    .of 2372909400 (-9000), .of 2393469000 (-12600), .of 2404359000 (-9000),
    .of 2424918600 (-12600), .of 2435808600 (-9000), .of 2456368200 (-12600),
    .of 2467258200 (-9000), .of 2487817800 (-12600), .of 2499312600 (-9000),
    .of 2519872200 (-12600), .of 2530762200 (-9000), .of 2551321800 (-12600),
    .of 2562211800 (-9000), .of 2582771400 (-12600), .of 2593661400 (-9000),
    .of 2614221000 (-12600), .of 2625111000 (-9000), .of 2645670600 (-12600),
    .of 2656560600 (-9000), .of 2677120200 (-12600), .of 2688615000 (-9000),
    .of 2709174600 (-12600), .of 2720064600 (-9000), .of 2740624200 (-12600),
    .of 2751514200 (-9000), .of 2772073800 (-12600), .of 2782963800 (-9000),
    .of 2803523400 (-12600), .of 2814413400 (-9000), .of 2834973000 (-12600),
    .of 2846467800 (-9000), .of 2867027400 (-12600), .of 2877917400 (-9000),
    .of 2898477000 (-12600), .of 2909367000 (-9000), .of 2929926600 (-12600),
    .of 2940816600 (-9000), .of 2961376200 (-12600), .of 2972266200 (-9000),
    .of 2992825800 (-12600), .of 3003715800 (-9000), .of 3024275400 (-12600),
    .of 3035770200 (-9000), .of 3056329800 (-12600), .of 3067219800 (-9000),
    .of 3087779400 (-12600), .of 3098669400 (-9000), .of 3119229000 (-12600),
    .of 3130119000 (-9000), .of 3150678600 (-12600), .of 3161568600 (-9000),
    .of 3182128200 (-12600), .of 3193018200 (-9000), .of 3213577800 (-12600),
    .of 3225072600 (-9000), .of 3245632200 (-12600), .of 3256522200 (-9000),
    .of 3277081800 (-12600), .of 3287971800 (-9000), .of 3308531400 (-12600),
    .of 3319421400 (-9000), .of 3339981000 (-12600), .of 3350871000 (-9000),
    .of 3371430600 (-12600), .of 3382925400 (-9000), .of 3403485000 (-12600),
    .of 3414375000 (-9000), .of 3434934600 (-12600), .of 3445824600 (-9000),
    .of 3466384200 (-12600), .of 3477274200 (-9000), .of 3497833800 (-12600),
    .of 3508723800 (-9000), .of 3529283400 (-12600), .of 3540173400 (-9000),
    .of 3560733000 (-12600), .of 3572227800 (-9000), .of 3592787400 (-12600),
    .of 3603677400 (-9000), .of 3624237000 (-12600), .of 3635127000 (-9000),
    .of 3655686600 (-12600), .of 3666576600 (-9000), .of 3687136200 (-12600),
    .of 3698026200 (-9000), .of 3718585800 (-12600), .of 3730080600 (-9000),
    .of 3750640200 (-12600), .of 3761530200 (-9000), .of 3782089800 (-12600),
    .of 3792979800 (-9000), .of 3813539400 (-12600), .of 3824429400 (-9000),
    .of 3844989000 (-12600), .of 3855879000 (-9000), .of 3876438600 (-12600),
    .of 3887328600 (-9000), .of 3907888200 (-12600), .of 3919383000 (-9000),
    .of 3939942600 (-12600), .of 3950832600 (-9000), .of 3971392200 (-12600),
    .of 3982282200 (-9000), .of 4002841800 (-12600), .of 4013731800 (-9000),
    .of 4034291400 (-12600), .of 4045181400 (-9000), .of 4065741000 (-12600),
    .of 4076631000 (-9000), .of 4097190600 (-12600)]

/-- The zone `America/Sao_Paulo`. -/
def saoPaulo : Zone :=
  .ofTable "America/Sao_Paulo" (-11188)
   [.of (-1767214412) (-10800), .of (-1206957600) (-7200), .of (-1191362400) (-10800),
    .of (-1175374800) (-7200), .of (-1159826400) (-10800), .of (-633819600) (-7200),
    .of (-622069200) (-10800), .of (-602283600) (-7200), .of (-591832800) (-10800),
    .of (-570747600) (-7200), .of (-560210400) (-10800), .of (-539125200) (-7200),
    .of (-531352800) (-10800), .of (-195426000) (-7200), .of (-184197600) (-10800),
    .of (-155163600) (-7200), .of (-150069600) (-10800), .of (-128898000) (-7200),
    .of (-121125600) (-10800), .of (-99954000) (-7200), .of (-89589600) (-10800),
    .of (-68418000) (-7200), .of (-57967200) (-10800), .of 499748400 (-7200),
    .of 511236000 (-10800), .of 530593200 (-7200), .of 540266400 (-10800), .of 562129200 (-7200),
    .of 571197600 (-10800), .of 592974000 (-7200), .of 602042400 (-10800), .of 624423600 (-7200),
    .of 634701600 (-10800), .of 656478000 (-7200), .of 666756000 (-10800), .of 687927600 (-7200),
    .of 697600800 (-10800), .of 719982000 (-7200), .of 728445600 (-10800), .of 750826800 (-7200),
    .of 761709600 (-10800), .of 782276400 (-7200), .of 793159200 (-10800), .of 813726000 (-7200),
    .of 824004000 (-10800), .of 844570800 (-7200), .of 856058400 (-10800), .of 876106800 (-7200),
    .of 888717600 (-10800), .of 908074800 (-7200), .of 919562400 (-10800), .of 938919600 (-7200),
    .of 951616800 (-10800), .of 970974000 (-7200), .of 982461600 (-10800), .of 1003028400 (-7200),
    .of 1013911200 (-10800), .of 1036292400 (-7200), .of 1045360800 (-10800),
    .of 1066532400 (-7200), .of 1076810400 (-10800), .of 1099364400 (-7200),
    .of 1108864800 (-10800), .of 1129431600 (-7200), .of 1140314400 (-10800),
    .of 1162695600 (-7200), .of 1172368800 (-10800), .of 1192330800 (-7200),
    .of 1203213600 (-10800), .of 1224385200 (-7200), .of 1234663200 (-10800),
    .of 1255834800 (-7200), .of 1266717600 (-10800), .of 1287284400 (-7200),
    .of 1298167200 (-10800), .of 1318734000 (-7200), .of 1330221600 (-10800),
    .of 1350788400 (-7200), .of 1361066400 (-10800), .of 1382238000 (-7200),
    .of 1392516000 (-10800), .of 1413687600 (-7200), .of 1424570400 (-10800),
    .of 1445137200 (-7200), .of 1456020000 (-10800), .of 1476586800 (-7200),
    .of 1487469600 (-10800), .of 1508036400 (-7200), .of 1518919200 (-10800),
    .of 1541300400 (-7200), .of 1550368800 (-10800)]

/-- The zone `US/Pacific`, an older name for the clocks of Los Angeles. -/
def usPacific : Zone := { losAngeles with name := "US/Pacific" }

end QueryResult.Zone
