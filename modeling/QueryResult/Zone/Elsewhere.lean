import QueryResult.Zone.Basic

/-!
# Zones of Asia, Africa and the Pacific

Each row is a second of UTC and the offset, in seconds ahead of UTC, that is in force from it on.
The rows are those of the tz database and end with the year 2099.
-/

namespace QueryResult.Zone

/-- The zone `Asia/Tokyo`. -/
def tokyo : Zone :=
  .ofTable "Asia/Tokyo" 33539
   [.of (-2587745939) 32400, .of (-683802000) 36000, .of (-672310800) 32400,
    .of (-654771600) 36000, .of (-640861200) 32400, .of (-620298000) 36000,
    .of (-609411600) 32400, .of (-588848400) 36000, .of (-577962000) 32400]

/-- The zone `Asia/Kolkata`. -/
def kolkata : Zone :=
  .ofTable "Asia/Kolkata" 21208
   [.of (-3645237208) 21200, .of (-3155694800) 19270, .of (-2019705670) 19800,
    .of (-891581400) 23400, .of (-872058600) 19800, .of (-862637400) 23400,
    .of (-764145000) 19800]

/-- The zone `Asia/Kathmandu`. -/
def kathmandu : Zone :=
  .ofTable "Asia/Kathmandu" 20476
   [.of (-1577943676) 19800, .of 504901800 20700]

/-- The zone `Australia/Lord_Howe`. -/
def lordHowe : Zone :=
  .ofTable "Australia/Lord_Howe" 38180
   [.of (-2364114980) 36000, .of 352216800 37800, .of 372785400 41400, .of 384273000 37800,
    .of 404839800 41400, .of 415722600 37800, .of 436289400 41400, .of 447172200 37800,
    .of 467739000 41400, .of 478621800 37800, .of 499188600 39600, .of 511282800 37800,
    .of 530033400 39600, .of 542732400 37800, .of 562087800 39600, .of 574786800 37800,
    .of 594142200 39600, .of 606236400 37800, .of 625591800 39600, .of 636476400 37800,
    .of 657041400 39600, .of 667926000 37800, .of 688491000 39600, .of 699375600 37800,
    .of 719940600 39600, .of 731430000 37800, .of 751995000 39600, .of 762879600 37800,
    .of 783444600 39600, .of 794329200 37800, .of 814894200 39600, .of 828198000 37800,
    .of 846343800 39600, .of 859647600 37800, .of 877793400 39600, .of 891097200 37800,
    .of 909243000 39600, .of 922546800 37800, .of 941297400 39600, .of 953996400 37800,
    .of 967303800 39600, .of 985446000 37800, .of 1004196600 39600, .of 1017500400 37800,
    .of 1035646200 39600, .of 1048950000 37800, .of 1067095800 39600, .of 1080399600 37800,
    .of 1099150200 39600, .of 1111849200 37800, .of 1130599800 39600, .of 1143903600 37800,
    .of 1162049400 39600, .of 1174748400 37800, .of 1193499000 39600, .of 1207407600 37800,
    .of 1223134200 39600, .of 1238857200 37800, .of 1254583800 39600, .of 1270306800 37800,
    .of 1286033400 39600, .of 1301756400 37800, .of 1317483000 39600, .of 1333206000 37800,
    .of 1349537400 39600, .of 1365260400 37800, .of 1380987000 39600, .of 1396710000 37800,
    .of 1412436600 39600, .of 1428159600 37800, .of 1443886200 39600, .of 1459609200 37800,
    .of 1475335800 39600, .of 1491058800 37800, .of 1506785400 39600, .of 1522508400 37800,
    .of 1538839800 39600, .of 1554562800 37800, .of 1570289400 39600, .of 1586012400 37800,
    .of 1601739000 39600, .of 1617462000 37800, .of 1633188600 39600, .of 1648911600 37800,
    .of 1664638200 39600, .of 1680361200 37800, .of 1696087800 39600, .of 1712415600 37800,
    .of 1728142200 39600, .of 1743865200 37800, .of 1759591800 39600, .of 1775314800 37800,
    .of 1791041400 39600, .of 1806764400 37800, .of 1822491000 39600, .of 1838214000 37800,
    .of 1853940600 39600, .of 1869663600 37800, .of 1885995000 39600, .of 1901718000 37800,
    .of 1917444600 39600, .of 1933167600 37800, .of 1948894200 39600, .of 1964617200 37800,
    .of 1980343800 39600, .of 1996066800 37800, .of 2011793400 39600, .of 2027516400 37800,
    .of 2043243000 39600, .of 2058966000 37800, .of 2075297400 39600, .of 2091020400 37800,
    .of 2106747000 39600, .of 2122470000 37800, .of 2138196600 39600, .of 2153919600 37800,
    .of 2169646200 39600, .of 2185369200 37800, .of 2201095800 39600, .of 2216818800 37800,
    .of 2233150200 39600, .of 2248873200 37800, .of 2264599800 39600, .of 2280322800 37800,
    .of 2296049400 39600, .of 2311772400 37800, .of 2327499000 39600, .of 2343222000 37800,
    .of 2358948600 39600, .of 2374671600 37800, .of 2390398200 39600, .of 2406121200 37800,
    .of 2422452600 39600, .of 2438175600 37800, .of 2453902200 39600, .of 2469625200 37800,
    .of 2485351800 39600, .of 2501074800 37800, .of 2516801400 39600, .of 2532524400 37800,
    .of 2548251000 39600, .of 2563974000 37800, .of 2579700600 39600, .of 2596028400 37800,
    .of 2611755000 39600, .of 2627478000 37800, .of 2643204600 39600, .of 2658927600 37800,
    .of 2674654200 39600, .of 2690377200 37800, .of 2706103800 39600, .of 2721826800 37800,
    .of 2737553400 39600, .of 2753276400 37800, .of 2769607800 39600, .of 2785330800 37800,
    .of 2801057400 39600, .of 2816780400 37800, .of 2832507000 39600, .of 2848230000 37800,
    .of 2863956600 39600, .of 2879679600 37800, .of 2895406200 39600, .of 2911129200 37800,
    .of 2926855800 39600, .of 2942578800 37800, .of 2958910200 39600, .of 2974633200 37800,
    .of 2990359800 39600, .of 3006082800 37800, .of 3021809400 39600, .of 3037532400 37800,
    .of 3053259000 39600, .of 3068982000 37800, .of 3084708600 39600, .of 3100431600 37800,
    .of 3116763000 39600, .of 3132486000 37800, .of 3148212600 39600, .of 3163935600 37800,
    .of 3179662200 39600, .of 3195385200 37800, .of 3211111800 39600, .of 3226834800 37800,
    .of 3242561400 39600, .of 3258284400 37800, .of 3274011000 39600, .of 3289734000 37800,
    .of 3306065400 39600, .of 3321788400 37800, .of 3337515000 39600, .of 3353238000 37800,
    .of 3368964600 39600, .of 3384687600 37800, .of 3400414200 39600, .of 3416137200 37800,
    .of 3431863800 39600, .of 3447586800 37800, .of 3463313400 39600, .of 3479641200 37800,
    .of 3495367800 39600, .of 3511090800 37800, .of 3526817400 39600, .of 3542540400 37800,
    .of 3558267000 39600, .of 3573990000 37800, .of 3589716600 39600, .of 3605439600 37800,
    .of 3621166200 39600, .of 3636889200 37800, .of 3653220600 39600, .of 3668943600 37800,
    .of 3684670200 39600, .of 3700393200 37800, .of 3716119800 39600, .of 3731842800 37800,
    .of 3747569400 39600, .of 3763292400 37800, .of 3779019000 39600, .of 3794742000 37800,
    .of 3810468600 39600, .of 3826191600 37800, .of 3842523000 39600, .of 3858246000 37800,
    .of 3873972600 39600, .of 3889695600 37800, .of 3905422200 39600, .of 3921145200 37800,
    .of 3936871800 39600, .of 3952594800 37800, .of 3968321400 39600, .of 3984044400 37800,
    .of 4000375800 39600, .of 4016098800 37800, .of 4031825400 39600, .of 4047548400 37800,
    .of 4063275000 39600, .of 4078998000 37800, .of 4094724600 39600]

/-- The zone `Pacific/Apia`. -/
def apia : Zone :=
  .ofTable "Pacific/Apia" 45184
   [.of (-2445424384) (-41216), .of (-1861878784) (-41400), .of (-631110600) (-39600),
    .of 1285498800 (-36000), .of 1301752800 (-39600), .of 1316872800 (-36000),
    .of 1325239200 50400, .of 1333202400 46800, .of 1348927200 50400, .of 1365256800 46800,
    .of 1380376800 50400, .of 1396706400 46800, .of 1411826400 50400, .of 1428156000 46800,
    .of 1443276000 50400, .of 1459605600 46800, .of 1474725600 50400, .of 1491055200 46800,
    .of 1506175200 50400, .of 1522504800 46800, .of 1538229600 50400, .of 1554559200 46800,
    .of 1569679200 50400, .of 1586008800 46800, .of 1601128800 50400, .of 1617458400 46800]

/-- The zone `Pacific/Kwajalein`. -/
def kwajalein : Zone :=
  .ofTable "Pacific/Kwajalein" 40160
   [.of (-2177492960) 39600, .of (-1041418800) 36000, .of (-907408800) 32400,
    .of (-817462800) 39600, .of (-7988400) (-43200), .of 745934400 43200]

/-- The zone `Africa/Monrovia`. -/
def monrovia : Zone :=
  .ofTable "Africa/Monrovia" (-2588)
   [.of (-2776979812) (-2588), .of (-1604359012) (-2670), .of 63593070 0]

end QueryResult.Zone
