/-!
# A table for logarithms

The numbers from 0.6875 up to one lie in 40 cells of equal width, and those from one up to
1.375 in 24 cells that are twice as wide. Each entry of the table belongs to one cell, in
ascending order, and has two numbers: nearly the inverse of a number
`c` in the middle of the cell, and the logarithm of `c` to base two. The numbers `c` are such
that their logarithms are very close to the entries.
-/

namespace OrderOfGrowth

/-- How many binary places the inverses of the table have. -/
def inversePlaces : Nat := 53

/-- How many binary places the logarithms of the table have. -/
def logarithmPlaces : Nat := 42

/-- For each cell the inverse and the logarithm of a number in its middle, both without the
point. -/
def logarithmCells : Array (Nat × Int) :=
  #[(13027360976886256, -2341495232950), (12881804371794242, -2270202146522),
    (12739466181585172, -2199702068511), (12600233160661258, -2129973698740),
    (12464017274778096, -2061006646142), (12330710607987928, -1992778894457),
    (12200226995740528, -1925277884378), (12072474970479676, -1858486870958),
    (11947373644738666, -1792393192155), (11824834615139258, -1726978830214),
    (11704787088242592, -1662233806617), (11587149206298588, -1598140947102),
    (11471856563366610, -1534691332505), (11358833935479462, -1471868971441),
    (11248013116420428, -1409660548602), (11139338831704172, -1348058972010),
    (11032742698285716, -1287048739030), (10928166759641962, -1226619227300),
    (10825555333599076, -1166760190990), (10724852022082402, -1107460042355),
    (10626004999791534, -1048708978643), (10528964655684356, -990497675756),
    (10433679645578912, -932814938277), (10340102746708938, -875651234431),
    (10248189169642338, -818997754880), (10157897337888368, -762846957615),
    (10069181384574906, -707187919544), (9982005166371424, -652015118085),
    (9896322060403712, -597315737582), (9812099776360056, -543085418230),
    (9729297332816260, -489313628135), (9647876741335970, -435991101394),
    (9567813260166222, -383116713688), (9489064245884190, -330677012485),
    (9411603387842994, -278668798219), (9335394834743578, -227081982314),
    (9260411560556294, -175911902958), (9186624870692536, -125152314636),
    (9114004391796036, -74795329912), (9042522330823746, -24834356794),
    (8937375867250539, 49378089128), (8800928416592260, 146995266079),
    (8668582414389375, 243134961943), (8540158497872616, 337839159645),
    (8415485649305062, 431149498926), (8294400073349299, 523107788817),
    (8176747770931523, 613753717755), (8062387450967395, 703122120437),
    (7951182372195153, 791248879377), (7843002450054220, 878169054538),
    (7737727187424714, 963914192535), (7635242520032143, 1048514494071),
    (7535434861727801, 1132003542648), (7438203613557213, 1214407671836),
    (7343448046694795, 1295756644334), (7251078553271981, 1376073870424),
    (7161003074427138, 1455387874223), (7073137791515890, 1533722887437),
    (6987402970618353, 1611102215855), (6903721501521517, 1687549401049),
    (6822021738051988, 1763085475350), (6742231067529250, 1837734751549),
    (6664286408807882, 1911514917390), (6588123242758028, 1984447110132)]

end OrderOfGrowth
