import Feng.Lib.Packed

/-
  The tables of the scanners in `ragel_request_line.c`, line
  by line.

  Key definitions include:
    * `requestLineTables`
    * `rtspHeadersTables`
    * `httpHeadersTables`

  Key theorems include:
    * `requestLineFits`
    * `rtspHeadersFits`
    * `httpHeadersFits`
-/

------------------------------------------------------------
-- Request Lines
------------------------------------------------------------

namespace Feng

def requestLineActions : RagelTable :=
  [[0, 1, 15, 1, 17, 1, 18, 1],
   [25, 2, 5, 19, 2, 12, 20, 2],
   [15, 18, 2, 15, 22, 2, 16, 21],
   [3, 5, 6, 19, 3, 5, 7, 19],
   [3, 5, 8, 19, 3, 5, 9, 19],
   [3, 5, 10, 19, 3, 5, 11, 19],
   [3, 12, 13, 20, 3, 12, 14, 20],
   [3, 17, 0, 23, 3, 17, 1, 23],
   [3, 17, 2, 24, 3, 17, 3, 24],
   [3, 17, 4, 24]]

def requestLineKeyOffsets : RagelTable :=
  [[0, 0, 10, 21, 24, 33, 36, 44],
   [51, 55, 62, 67, 69, 78, 87, 96],
   [104, 112, 116, 123, 128, 132, 141, 146],
   [151, 160, 169, 178, 186, 194, 198, 205],
   [210, 214, 222, 227, 242, 253, 265, 277],
   [289, 301, 313, 325, 337, 348, 360, 372],
   [384, 396, 408, 420, 431, 444, 456, 468],
   [480, 491, 503, 515, 526, 538, 550, 562],
   [574, 585, 597, 609, 621, 633, 645, 657],
   [669, 680, 692, 703, 715, 727, 738, 750],
   [762, 774, 785, 785, 785]]

def requestLineTransKeys : RagelTable :=
  [[95, 126, 45, 46, 48, 57, 65, 90],
   [97, 122, 32, 95, 126, 45, 46, 48],
   [57, 65, 90, 97, 122, 32, 33, 126],
   [32, 72, 82, 33, 64, 65, 90, 91],
   [126, 32, 33, 126, 32, 47, 33, 64],
   [65, 90, 91, 126, 32, 33, 47, 48],
   [57, 58, 126, 32, 46, 33, 126, 32],
   [33, 47, 48, 57, 58, 126, 10, 13],
   [32, 33, 126, 10, 13, 32, 47, 84],
   [33, 64, 65, 90, 91, 126, 32, 47],
   [84, 33, 64, 65, 90, 91, 126, 32],
   [47, 80, 33, 64, 65, 90, 91, 126],
   [32, 47, 33, 64, 65, 90, 91, 126],
   [32, 49, 33, 47, 48, 57, 58, 126],
   [32, 46, 33, 126, 32, 33, 47, 48],
   [57, 58, 126, 10, 13, 32, 33, 126],
   [32, 46, 33, 126, 32, 48, 49, 33],
   [47, 50, 57, 58, 126, 10, 13, 32],
   [33, 126, 10, 13, 32, 33, 126, 32],
   [47, 84, 33, 64, 65, 90, 91, 126],
   [32, 47, 83, 33, 64, 65, 90, 91],
   [126, 32, 47, 80, 33, 64, 65, 90],
   [91, 126, 32, 47, 33, 64, 65, 90],
   [91, 126, 32, 49, 33, 47, 48, 57],
   [58, 126, 32, 46, 33, 126, 32, 33],
   [47, 48, 57, 58, 126, 10, 13, 32],
   [33, 126, 32, 46, 33, 126, 32, 48],
   [33, 47, 49, 57, 58, 126, 10, 13],
   [32, 33, 126, 68, 79, 80, 83, 84],
   [95, 126, 45, 46, 48, 57, 65, 90],
   [97, 122, 32, 95, 126, 45, 46, 48],
   [57, 65, 90, 97, 122, 32, 69, 95],
   [126, 45, 46, 48, 57, 65, 90, 97],
   [122, 32, 83, 95, 126, 45, 46, 48],
   [57, 65, 90, 97, 122, 32, 67, 95],
   [126, 45, 46, 48, 57, 65, 90, 97],
   [122, 32, 82, 95, 126, 45, 46, 48],
   [57, 65, 90, 97, 122, 32, 73, 95],
   [126, 45, 46, 48, 57, 65, 90, 97],
   [122, 32, 66, 95, 126, 45, 46, 48],
   [57, 65, 90, 97, 122, 32, 69, 95],
   [126, 45, 46, 48, 57, 65, 90, 97],
   [122, 32, 95, 126, 45, 46, 48, 57],
   [65, 90, 97, 122, 32, 80, 95, 126],
   [45, 46, 48, 57, 65, 90, 97, 122],
   [32, 84, 95, 126, 45, 46, 48, 57],
   [65, 90, 97, 122, 32, 73, 95, 126],
   [45, 46, 48, 57, 65, 90, 97, 122],
   [32, 79, 95, 126, 45, 46, 48, 57],
   [65, 90, 97, 122, 32, 78, 95, 126],
   [45, 46, 48, 57, 65, 90, 97, 122],
   [32, 83, 95, 126, 45, 46, 48, 57],
   [65, 90, 97, 122, 32, 95, 126, 45],
   [46, 48, 57, 65, 90, 97, 122, 32],
   [65, 76, 95, 126, 45, 46, 48, 57],
   [66, 90, 97, 122, 32, 85, 95, 126],
   [45, 46, 48, 57, 65, 90, 97, 122],
   [32, 83, 95, 126, 45, 46, 48, 57],
   [65, 90, 97, 122, 32, 69, 95, 126],
   [45, 46, 48, 57, 65, 90, 97, 122],
   [32, 95, 126, 45, 46, 48, 57, 65],
   [90, 97, 122, 32, 65, 95, 126, 45],
   [46, 48, 57, 66, 90, 97, 122, 32],
   [89, 95, 126, 45, 46, 48, 57, 65],
   [90, 97, 122, 32, 95, 126, 45, 46],
   [48, 57, 65, 90, 97, 122, 32, 69],
   [95, 126, 45, 46, 48, 57, 65, 90],
   [97, 122, 32, 84, 95, 126, 45, 46],
   [48, 57, 65, 90, 97, 122, 32, 85],
   [95, 126, 45, 46, 48, 57, 65, 90],
   [97, 122, 32, 80, 95, 126, 45, 46],
   [48, 57, 65, 90, 97, 122, 32, 95],
   [126, 45, 46, 48, 57, 65, 90, 97],
   [122, 32, 69, 95, 126, 45, 46, 48],
   [57, 65, 90, 97, 122, 32, 65, 95],
   [126, 45, 46, 48, 57, 66, 90, 97],
   [122, 32, 82, 95, 126, 45, 46, 48],
   [57, 65, 90, 97, 122, 32, 68, 95],
   [126, 45, 46, 48, 57, 65, 90, 97],
   [122, 32, 79, 95, 126, 45, 46, 48],
   [57, 65, 90, 97, 122, 32, 87, 95],
   [126, 45, 46, 48, 57, 65, 90, 97],
   [122, 32, 78, 95, 126, 45, 46, 48],
   [57, 65, 90, 97, 122, 32, 95, 126],
   [45, 46, 48, 57, 65, 90, 97, 122],
   [71, 80, 95, 126, 45, 46, 48, 57],
   [65, 90, 97, 122, 32, 95, 126, 45],
   [46, 48, 57, 65, 90, 97, 122, 32],
   [69, 95, 126, 45, 46, 48, 57, 65],
   [90, 97, 122, 32, 84, 95, 126, 45],
   [46, 48, 57, 65, 90, 97, 122, 32],
   [95, 126, 45, 46, 48, 57, 65, 90],
   [97, 122, 32, 79, 95, 126, 45, 46],
   [48, 57, 65, 90, 97, 122, 32, 83],
   [95, 126, 45, 46, 48, 57, 65, 90],
   [97, 122, 32, 84, 95, 126, 45, 46],
   [48, 57, 65, 90, 97, 122, 32, 95],
   [126, 45, 46, 48, 57, 65, 90, 97],
   [122, 0]]

def requestLineSingleLengths : RagelTable :=
  [[0, 2, 3, 1, 3, 1, 2, 1],
   [2, 1, 3, 2, 3, 3, 3, 2],
   [2, 2, 1, 3, 2, 3, 3, 3],
   [3, 3, 3, 2, 2, 2, 1, 3],
   [2, 2, 3, 7, 3, 4, 4, 4],
   [4, 4, 4, 4, 3, 4, 4, 4],
   [4, 4, 4, 3, 5, 4, 4, 4],
   [3, 4, 4, 3, 4, 4, 4, 4],
   [3, 4, 4, 4, 4, 4, 4, 4],
   [3, 4, 3, 4, 4, 3, 4, 4],
   [4, 3, 0, 0, 0]]

def requestLineRangeLengths : RagelTable :=
  [[0, 4, 4, 1, 3, 1, 3, 3],
   [1, 3, 1, 0, 3, 3, 3, 3],
   [3, 1, 3, 1, 1, 3, 1, 1],
   [3, 3, 3, 3, 3, 1, 3, 1],
   [1, 3, 1, 4, 4, 4, 4, 4],
   [4, 4, 4, 4, 4, 4, 4, 4],
   [4, 4, 4, 4, 4, 4, 4, 4],
   [4, 4, 4, 4, 4, 4, 4, 4],
   [4, 4, 4, 4, 4, 4, 4, 4],
   [4, 4, 4, 4, 4, 4, 4, 4],
   [4, 4, 0, 0, 0]]

def requestLineIndexOffsets : RagelTable :=
  [[0, 0, 7, 15, 18, 25, 28, 34],
   [39, 43, 48, 53, 56, 63, 70, 77],
   [83, 89, 93, 98, 103, 107, 114, 119],
   [124, 131, 138, 145, 151, 157, 161, 166],
   [171, 175, 181, 186, 198, 206, 215, 224],
   [233, 242, 251, 260, 269, 277, 286, 295],
   [304, 313, 322, 331, 339, 349, 358, 367],
   [376, 384, 393, 402, 410, 419, 428, 437],
   [446, 454, 463, 472, 481, 490, 499, 508],
   [517, 525, 534, 542, 551, 560, 568, 577],
   [586, 595, 603, 604, 605]]

def requestLineIndicies : RagelTable :=
  [[0, 0, 0, 0, 0, 0, 1, 2],
   [3, 3, 3, 3, 3, 3, 1, 4],
   [5, 1, 6, 9, 10, 7, 8, 7],
   [1, 6, 7, 1, 6, 11, 7, 12],
   [7, 1, 6, 7, 13, 7, 1, 6],
   [14, 7, 1, 6, 7, 15, 7, 1],
   [16, 17, 6, 7, 1, 18, 19, 1],
   [6, 11, 20, 7, 12, 7, 1, 6],
   [11, 21, 7, 12, 7, 1, 6, 11],
   [22, 7, 12, 7, 1, 6, 23, 7],
   [12, 7, 1, 6, 25, 7, 24, 7],
   [1, 6, 26, 7, 1, 6, 7, 27],
   [7, 1, 28, 29, 6, 7, 1, 6],
   [30, 7, 1, 6, 31, 32, 7, 15],
   [7, 1, 33, 34, 6, 7, 1, 35],
   [36, 6, 7, 1, 6, 11, 37, 7],
   [12, 7, 1, 6, 11, 38, 7, 12],
   [7, 1, 6, 11, 39, 7, 12, 7],
   [1, 6, 40, 7, 12, 7, 1, 6],
   [42, 7, 41, 7, 1, 6, 43, 7],
   [1, 6, 7, 44, 7, 1, 45, 46],
   [6, 7, 1, 6, 47, 7, 1, 6],
   [48, 7, 15, 7, 1, 49, 50, 6],
   [7, 1, 52, 53, 54, 55, 56, 51],
   [51, 51, 51, 51, 51, 1, 57, 51],
   [51, 51, 51, 51, 51, 1, 57, 58],
   [51, 51, 51, 51, 51, 51, 1, 57],
   [59, 51, 51, 51, 51, 51, 51, 1],
   [57, 60, 51, 51, 51, 51, 51, 51],
   [1, 57, 61, 51, 51, 51, 51, 51],
   [51, 1, 57, 62, 51, 51, 51, 51],
   [51, 51, 1, 57, 63, 51, 51, 51],
   [51, 51, 51, 1, 57, 64, 51, 51],
   [51, 51, 51, 51, 1, 65, 51, 51],
   [51, 51, 51, 51, 1, 57, 66, 51],
   [51, 51, 51, 51, 51, 1, 57, 67],
   [51, 51, 51, 51, 51, 51, 1, 57],
   [68, 51, 51, 51, 51, 51, 51, 1],
   [57, 69, 51, 51, 51, 51, 51, 51],
   [1, 57, 70, 51, 51, 51, 51, 51],
   [51, 1, 57, 71, 51, 51, 51, 51],
   [51, 51, 1, 72, 51, 51, 51, 51],
   [51, 51, 1, 57, 73, 74, 51, 51],
   [51, 51, 51, 51, 1, 57, 75, 51],
   [51, 51, 51, 51, 51, 1, 57, 76],
   [51, 51, 51, 51, 51, 51, 1, 57],
   [77, 51, 51, 51, 51, 51, 51, 1],
   [78, 51, 51, 51, 51, 51, 51, 1],
   [57, 79, 51, 51, 51, 51, 51, 51],
   [1, 57, 80, 51, 51, 51, 51, 51],
   [51, 1, 81, 51, 51, 51, 51, 51],
   [51, 1, 57, 82, 51, 51, 51, 51],
   [51, 51, 1, 57, 83, 51, 51, 51],
   [51, 51, 51, 1, 57, 84, 51, 51],
   [51, 51, 51, 51, 1, 57, 85, 51],
   [51, 51, 51, 51, 51, 1, 86, 51],
   [51, 51, 51, 51, 51, 1, 57, 87],
   [51, 51, 51, 51, 51, 51, 1, 57],
   [88, 51, 51, 51, 51, 51, 51, 1],
   [57, 89, 51, 51, 51, 51, 51, 51],
   [1, 57, 90, 51, 51, 51, 51, 51],
   [51, 1, 57, 91, 51, 51, 51, 51],
   [51, 51, 1, 57, 92, 51, 51, 51],
   [51, 51, 51, 1, 57, 93, 51, 51],
   [51, 51, 51, 51, 1, 94, 51, 51],
   [51, 51, 51, 51, 1, 96, 97, 95],
   [95, 95, 95, 95, 95, 1, 98, 95],
   [95, 95, 95, 95, 95, 1, 98, 99],
   [95, 95, 95, 95, 95, 95, 1, 98],
   [100, 95, 95, 95, 95, 95, 95, 1],
   [101, 95, 95, 95, 95, 95, 95, 1],
   [98, 102, 95, 95, 95, 95, 95, 95],
   [1, 98, 103, 95, 95, 95, 95, 95],
   [95, 1, 98, 104, 95, 95, 95, 95],
   [95, 95, 1, 105, 95, 95, 95, 95],
   [95, 95, 1, 1, 1, 1, 0]]

def requestLineTransTargs : RagelTable :=
  [[2, 0, 3, 2, 4, 5, 4, 5],
   [6, 12, 24, 7, 6, 8, 9, 10],
   [82, 11, 82, 11, 13, 14, 15, 16],
   [17, 20, 18, 19, 82, 11, 21, 22],
   [23, 82, 11, 82, 11, 25, 26, 27],
   [28, 29, 32, 30, 31, 82, 11, 33],
   [34, 82, 11, 36, 37, 45, 52, 60],
   [65, 83, 38, 39, 40, 41, 42, 43],
   [44, 83, 46, 47, 48, 49, 50, 51],
   [83, 53, 57, 54, 55, 56, 83, 58],
   [59, 83, 61, 62, 63, 64, 83, 66],
   [67, 68, 69, 70, 71, 72, 83, 74],
   [75, 78, 84, 76, 77, 84, 79, 80],
   [81, 84]]

def requestLineTransActions : RagelTable :=
  [[1, 0, 21, 0, 15, 1, 5, 0],
   [18, 18, 18, 0, 0, 0, 0, 0],
   [3, 3, 0, 0, 0, 0, 0, 0],
   [0, 0, 0, 0, 72, 72, 0, 0],
   [0, 64, 64, 68, 68, 0, 0, 0],
   [0, 0, 0, 0, 0, 60, 60, 0],
   [0, 56, 56, 0, 0, 0, 0, 0],
   [0, 9, 0, 0, 0, 0, 0, 0],
   [0, 24, 0, 0, 0, 0, 0, 0],
   [28, 0, 0, 0, 0, 0, 32, 0],
   [0, 36, 0, 0, 0, 0, 40, 0],
   [0, 0, 0, 0, 0, 0, 44, 0],
   [0, 0, 12, 0, 0, 48, 0, 0],
   [0, 52]]

def requestLineToStateActions : RagelTable :=
  [[0, 0, 0, 0, 0, 0, 0, 0],
   [0, 0, 0, 0, 0, 0, 0, 0],
   [0, 0, 0, 0, 0, 0, 0, 0],
   [0, 0, 0, 0, 0, 0, 0, 0],
   [0, 0, 0, 0, 0, 0, 0, 0],
   [0, 0, 0, 0, 0, 0, 0, 0],
   [0, 0, 0, 0, 0, 0, 0, 0],
   [0, 0, 0, 0, 0, 0, 0, 0],
   [0, 0, 0, 0, 0, 0, 0, 0],
   [0, 0, 0, 0, 0, 0, 0, 0],
   [0, 0, 7, 0, 0]]

/- The tables of `ragel_parse_request_line`. -/
def requestLineTables : RagelTables where
  actions := requestLineActions
  keyOffsets := requestLineKeyOffsets
  transKeys := requestLineTransKeys
  singleLengths := requestLineSingleLengths
  rangeLengths := requestLineRangeLengths
  indexOffsets := requestLineIndexOffsets
  indicies := requestLineIndicies
  transTargs := requestLineTransTargs
  transActions := requestLineTransActions
  toStateActions := requestLineToStateActions
  fromStateActions := []

theorem requestLineFits : requestLineTables.Fits where
  actions := by decide
  keyOffsets := by decide
  transKeys := by decide
  singleLengths := by decide
  rangeLengths := by decide
  indexOffsets := by decide
  indicies := by decide
  transTargs := by decide
  transActions := by decide

end Feng

------------------------------------------------------------
-- RTSP Headers
------------------------------------------------------------

namespace Feng

def rtspHeadersActions : RagelTable :=
  [[0, 1, 0, 1, 23, 1, 24, 1],
   [25, 1, 26, 2, 0, 1, 2, 0],
   [2, 2, 0, 3, 2, 0, 4, 2],
   [0, 5, 2, 0, 6, 2, 0, 7],
   [2, 0, 8, 2, 0, 9, 2, 0],
   [10, 2, 0, 11, 2, 0, 12, 2],
   [0, 13, 2, 0, 14, 2, 0, 15],
   [2, 0, 16, 2, 0, 17, 2, 0],
   [18, 2, 0, 19, 2, 0, 20, 2],
   [0, 21, 2, 0, 22, 2, 23, 24]]

def rtspHeadersKeyOffsets : RagelTable :=
  [[0, 0, 32, 34, 45, 49, 55, 87],
   [102, 115, 128, 141, 152, 165, 178, 191],
   [204, 217, 230, 243, 256, 269, 282, 295],
   [306, 319, 332, 345, 358, 371, 384, 397],
   [410, 421, 436, 449, 462, 475, 488, 501],
   [512, 529, 542, 555, 568, 579, 592, 605],
   [618, 631, 644, 655, 668, 681, 694, 705],
   [718, 731, 742, 755, 768, 781, 792, 805],
   [818, 831, 844, 857, 870, 883, 894, 909],
   [922, 935, 948, 959, 972, 985, 998, 1011],
   [1024, 1037, 1050, 1061, 1074, 1087, 1100, 1113],
   [1124, 1141, 1154, 1167, 1180, 1191, 1206, 1219],
   [1232, 1245, 1258, 1269, 1282, 1295, 1308, 1321],
   [1332, 1345, 1356, 1369, 1382, 1395, 1408, 1419],
   [1434, 1449, 1462, 1475, 1488, 1499, 1512, 1525],
   [1538, 1551, 1562, 1575, 1588, 1601, 1612, 1627],
   [1640, 1653, 1666, 1679, 1692, 1705, 1718, 1729],
   [1742, 1755, 1768, 1781, 1794, 1807, 1820, 1831],
   [1846, 1859, 1872, 1885, 1898, 1911, 1924, 1937],
   [1950, 1963, 1974, 1987, 2000, 2011, 2024, 2037],
   [2050, 2063, 2076, 2087, 2089, 2095]]

def rtspHeadersTransKeys : RagelTable :=
  [[10, 13, 65, 66, 67, 68, 76, 80],
   [82, 83, 84, 85, 95, 97, 98, 99],
   [100, 108, 112, 114, 115, 116, 117, 126],
   [45, 46, 48, 57, 69, 90, 101, 122],
   [10, 13, 58, 95, 126, 45, 46, 48],
   [57, 65, 90, 97, 122, 9, 32, 33],
   [126, 9, 10, 13, 32, 33, 126, 10],
   [13, 65, 66, 67, 68, 76, 80, 82],
   [83, 84, 85, 95, 97, 98, 99, 100],
   [108, 112, 114, 115, 116, 117, 126, 45],
   [46, 48, 57, 69, 90, 101, 122, 58],
   [76, 85, 95, 108, 117, 126, 45, 46],
   [48, 57, 65, 90, 97, 122, 58, 76],
   [95, 108, 126, 45, 46, 48, 57, 65],
   [90, 97, 122, 58, 79, 95, 111, 126],
   [45, 46, 48, 57, 65, 90, 97, 122],
   [58, 87, 95, 119, 126, 45, 46, 48],
   [57, 65, 90, 97, 122, 58, 95, 126],
   [45, 46, 48, 57, 65, 90, 97, 122],
   [58, 84, 95, 116, 126, 45, 46, 48],
   [57, 65, 90, 97, 122, 58, 72, 95],
   [104, 126, 45, 46, 48, 57, 65, 90],
   [97, 122, 58, 79, 95, 111, 126, 45],
   [46, 48, 57, 65, 90, 97, 122, 58],
   [82, 95, 114, 126, 45, 46, 48, 57],
   [65, 90, 97, 122, 58, 73, 95, 105],
   [126, 45, 46, 48, 57, 65, 90, 97],
   [122, 58, 90, 95, 122, 126, 45, 46],
   [48, 57, 65, 89, 97, 121, 58, 65],
   [95, 97, 126, 45, 46, 48, 57, 66],
   [90, 98, 122, 58, 84, 95, 116, 126],
   [45, 46, 48, 57, 65, 90, 97, 122],
   [58, 73, 95, 105, 126, 45, 46, 48],
   [57, 65, 90, 97, 122, 58, 79, 95],
   [111, 126, 45, 46, 48, 57, 65, 90],
   [97, 122, 58, 78, 95, 110, 126, 45],
   [46, 48, 57, 65, 90, 97, 122, 58],
   [95, 126, 45, 46, 48, 57, 65, 90],
   [97, 122, 58, 65, 95, 97, 126, 45],
   [46, 48, 57, 66, 90, 98, 122, 58],
   [78, 95, 110, 126, 45, 46, 48, 57],
   [65, 90, 97, 122, 58, 68, 95, 100],
   [126, 45, 46, 48, 57, 65, 90, 97],
   [122, 58, 87, 95, 119, 126, 45, 46],
   [48, 57, 65, 90, 97, 122, 58, 73],
   [95, 105, 126, 45, 46, 48, 57, 65],
   [90, 97, 122, 58, 68, 95, 100, 126],
   [45, 46, 48, 57, 65, 90, 97, 122],
   [58, 84, 95, 116, 126, 45, 46, 48],
   [57, 65, 90, 97, 122, 58, 72, 95],
   [104, 126, 45, 46, 48, 57, 65, 90],
   [97, 122, 58, 95, 126, 45, 46, 48],
   [57, 65, 90, 97, 122, 58, 79, 83],
   [95, 111, 115, 126, 45, 46, 48, 57],
   [65, 90, 97, 122, 58, 78, 95, 110],
   [126, 45, 46, 48, 57, 65, 90, 97],
   [122, 58, 84, 95, 116, 126, 45, 46],
   [48, 57, 65, 90, 97, 122, 58, 69],
   [95, 101, 126, 45, 46, 48, 57, 65],
   [90, 97, 122, 58, 78, 95, 110, 126],
   [45, 46, 48, 57, 65, 90, 97, 122],
   [58, 84, 95, 116, 126, 45, 46, 48],
   [57, 65, 90, 97, 122, 45, 46, 58],
   [95, 126, 48, 57, 65, 90, 97, 122],
   [58, 66, 76, 84, 95, 98, 108, 116],
   [126, 45, 46, 48, 57, 65, 90, 97],
   [122, 58, 65, 95, 97, 126, 45, 46],
   [48, 57, 66, 90, 98, 122, 58, 83],
   [95, 115, 126, 45, 46, 48, 57, 65],
   [90, 97, 122, 58, 69, 95, 101, 126],
   [45, 46, 48, 57, 65, 90, 97, 122],
   [58, 95, 126, 45, 46, 48, 57, 65],
   [90, 97, 122, 58, 69, 95, 101, 126],
   [45, 46, 48, 57, 65, 90, 97, 122],
   [58, 78, 95, 110, 126, 45, 46, 48],
   [57, 65, 90, 97, 122, 58, 71, 95],
   [103, 126, 45, 46, 48, 57, 65, 90],
   [97, 122, 58, 84, 95, 116, 126, 45],
   [46, 48, 57, 65, 90, 97, 122, 58],
   [72, 95, 104, 126, 45, 46, 48, 57],
   [65, 90, 97, 122, 58, 95, 126, 45],
   [46, 48, 57, 65, 90, 97, 122, 58],
   [89, 95, 121, 126, 45, 46, 48, 57],
   [65, 90, 97, 122, 58, 80, 95, 112],
   [126, 45, 46, 48, 57, 65, 90, 97],
   [122, 58, 69, 95, 101, 126, 45, 46],
   [48, 57, 65, 90, 97, 122, 58, 95],
   [126, 45, 46, 48, 57, 65, 90, 97],
   [122, 58, 69, 95, 101, 126, 45, 46],
   [48, 57, 65, 90, 97, 122, 58, 81],
   [95, 113, 126, 45, 46, 48, 57, 65],
   [90, 97, 122, 58, 95, 126, 45, 46],
   [48, 57, 65, 90, 97, 122, 58, 65],
   [95, 97, 126, 45, 46, 48, 57, 66],
   [90, 98, 122, 58, 84, 95, 116, 126],
   [45, 46, 48, 57, 65, 90, 97, 122],
   [58, 69, 95, 101, 126, 45, 46, 48],
   [57, 65, 90, 97, 122, 58, 95, 126],
   [45, 46, 48, 57, 65, 90, 97, 122],
   [58, 79, 95, 111, 126, 45, 46, 48],
   [57, 65, 90, 97, 122, 58, 67, 95],
   [99, 126, 45, 46, 48, 57, 65, 90],
   [97, 122, 58, 65, 95, 97, 126, 45],
   [46, 48, 57, 66, 90, 98, 122, 58],
   [84, 95, 116, 126, 45, 46, 48, 57],
   [65, 90, 97, 122, 58, 73, 95, 105],
   [126, 45, 46, 48, 57, 65, 90, 97],
   [122, 58, 79, 95, 111, 126, 45, 46],
   [48, 57, 65, 90, 97, 122, 58, 78],
   [95, 110, 126, 45, 46, 48, 57, 65],
   [90, 97, 122, 58, 95, 126, 45, 46],
   [48, 57, 65, 90, 97, 122, 58, 82],
   [85, 95, 114, 117, 126, 45, 46, 48],
   [57, 65, 90, 97, 122, 58, 79, 95],
   [111, 126, 45, 46, 48, 57, 65, 90],
   [97, 122, 58, 88, 95, 120, 126, 45],
   [46, 48, 57, 65, 90, 97, 122, 58],
   [89, 95, 121, 126, 45, 46, 48, 57],
   [65, 90, 97, 122, 45, 46, 58, 95],
   [126, 48, 57, 65, 90, 97, 122, 58],
   [82, 95, 114, 126, 45, 46, 48, 57],
   [65, 90, 97, 122, 58, 69, 95, 101],
   [126, 45, 46, 48, 57, 65, 90, 97],
   [122, 58, 81, 95, 113, 126, 45, 46],
   [48, 57, 65, 90, 97, 122, 58, 85],
   [95, 117, 126, 45, 46, 48, 57, 65],
   [90, 97, 122, 58, 73, 95, 105, 126],
   [45, 46, 48, 57, 65, 90, 97, 122],
   [58, 82, 95, 114, 126, 45, 46, 48],
   [57, 65, 90, 97, 122, 58, 69, 95],
   [101, 126, 45, 46, 48, 57, 65, 90],
   [97, 122, 58, 95, 126, 45, 46, 48],
   [57, 65, 90, 97, 122, 58, 66, 95],
   [98, 126, 45, 46, 48, 57, 65, 90],
   [97, 122, 58, 76, 95, 108, 126, 45],
   [46, 48, 57, 65, 90, 97, 122, 58],
   [73, 95, 105, 126, 45, 46, 48, 57],
   [65, 90, 97, 122, 58, 67, 95, 99],
   [126, 45, 46, 48, 57, 65, 90, 97],
   [122, 58, 95, 126, 45, 46, 48, 57],
   [65, 90, 97, 122, 58, 65, 69, 84],
   [95, 97, 101, 116, 126, 45, 46, 48],
   [57, 66, 90, 98, 122, 58, 78, 95],
   [110, 126, 45, 46, 48, 57, 65, 90],
   [97, 122, 58, 71, 95, 103, 126, 45],
   [46, 48, 57, 65, 90, 97, 122, 58],
   [69, 95, 101, 126, 45, 46, 48, 57],
   [65, 90, 97, 122, 58, 95, 126, 45],
   [46, 48, 57, 65, 90, 97, 122, 58],
   [70, 81, 95, 102, 113, 126, 45, 46],
   [48, 57, 65, 90, 97, 122, 58, 69],
   [95, 101, 126, 45, 46, 48, 57, 65],
   [90, 97, 122, 58, 82, 95, 114, 126],
   [45, 46, 48, 57, 65, 90, 97, 122],
   [58, 69, 95, 101, 126, 45, 46, 48],
   [57, 65, 90, 97, 122, 58, 82, 95],
   [114, 126, 45, 46, 48, 57, 65, 90],
   [97, 122, 58, 95, 126, 45, 46, 48],
   [57, 65, 90, 97, 122, 58, 85, 95],
   [117, 126, 45, 46, 48, 57, 65, 90],
   [97, 122, 58, 73, 95, 105, 126, 45],
   [46, 48, 57, 65, 90, 97, 122, 58],
   [82, 95, 114, 126, 45, 46, 48, 57],
   [65, 90, 97, 122, 58, 69, 95, 101],
   [126, 45, 46, 48, 57, 65, 90, 97],
   [122, 58, 95, 126, 45, 46, 48, 57],
   [65, 90, 97, 122, 58, 80, 95, 112],
   [126, 45, 46, 48, 57, 65, 90, 97],
   [122, 45, 46, 58, 95, 126, 48, 57],
   [65, 90, 97, 122, 58, 73, 95, 105],
   [126, 45, 46, 48, 57, 65, 90, 97],
   [122, 58, 78, 95, 110, 126, 45, 46],
   [48, 57, 65, 90, 97, 122, 58, 70],
   [95, 102, 126, 45, 46, 48, 57, 65],
   [90, 97, 122, 58, 79, 95, 111, 126],
   [45, 46, 48, 57, 65, 90, 97, 122],
   [58, 95, 126, 45, 46, 48, 57, 65],
   [90, 97, 122, 58, 69, 80, 95, 101],
   [112, 126, 45, 46, 48, 57, 65, 90],
   [97, 122, 58, 82, 83, 95, 114, 115],
   [126, 45, 46, 48, 57, 65, 90, 97],
   [122, 58, 86, 95, 118, 126, 45, 46],
   [48, 57, 65, 90, 97, 122, 58, 69],
   [95, 101, 126, 45, 46, 48, 57, 65],
   [90, 97, 122, 58, 82, 95, 114, 126],
   [45, 46, 48, 57, 65, 90, 97, 122],
   [58, 95, 126, 45, 46, 48, 57, 65],
   [90, 97, 122, 58, 83, 95, 115, 126],
   [45, 46, 48, 57, 65, 90, 97, 122],
   [58, 73, 95, 105, 126, 45, 46, 48],
   [57, 65, 90, 97, 122, 58, 79, 95],
   [111, 126, 45, 46, 48, 57, 65, 90],
   [97, 122, 58, 78, 95, 110, 126, 45],
   [46, 48, 57, 65, 90, 97, 122, 58],
   [95, 126, 45, 46, 48, 57, 65, 90],
   [97, 122, 58, 69, 95, 101, 126, 45],
   [46, 48, 57, 65, 90, 97, 122, 58],
   [69, 95, 101, 126, 45, 46, 48, 57],
   [65, 90, 97, 122, 58, 68, 95, 100],
   [126, 45, 46, 48, 57, 65, 90, 97],
   [122, 58, 95, 126, 45, 46, 48, 57],
   [65, 90, 97, 122, 58, 73, 82, 95],
   [105, 114, 126, 45, 46, 48, 57, 65],
   [90, 97, 122, 58, 77, 95, 109, 126],
   [45, 46, 48, 57, 65, 90, 97, 122],
   [58, 69, 95, 101, 126, 45, 46, 48],
   [57, 65, 90, 97, 122, 58, 83, 95],
   [115, 126, 45, 46, 48, 57, 65, 90],
   [97, 122, 58, 84, 95, 116, 126, 45],
   [46, 48, 57, 65, 90, 97, 122, 58],
   [65, 95, 97, 126, 45, 46, 48, 57],
   [66, 90, 98, 122, 58, 77, 95, 109],
   [126, 45, 46, 48, 57, 65, 90, 97],
   [122, 58, 80, 95, 112, 126, 45, 46],
   [48, 57, 65, 90, 97, 122, 58, 95],
   [126, 45, 46, 48, 57, 65, 90, 97],
   [122, 58, 65, 95, 97, 126, 45, 46],
   [48, 57, 66, 90, 98, 122, 58, 78],
   [95, 110, 126, 45, 46, 48, 57, 65],
   [90, 97, 122, 58, 83, 95, 115, 126],
   [45, 46, 48, 57, 65, 90, 97, 122],
   [58, 80, 95, 112, 126, 45, 46, 48],
   [57, 65, 90, 97, 122, 58, 79, 95],
   [111, 126, 45, 46, 48, 57, 65, 90],
   [97, 122, 58, 82, 95, 114, 126, 45],
   [46, 48, 57, 65, 90, 97, 122, 58],
   [84, 95, 116, 126, 45, 46, 48, 57],
   [65, 90, 97, 122, 58, 95, 126, 45],
   [46, 48, 57, 65, 90, 97, 122, 58],
   [78, 83, 95, 110, 115, 126, 45, 46],
   [48, 57, 65, 90, 97, 122, 58, 83],
   [95, 115, 126, 45, 46, 48, 57, 65],
   [90, 97, 122, 58, 85, 95, 117, 126],
   [45, 46, 48, 57, 65, 90, 97, 122],
   [58, 80, 95, 112, 126, 45, 46, 48],
   [57, 65, 90, 97, 122, 58, 80, 95],
   [112, 126, 45, 46, 48, 57, 65, 90],
   [97, 122, 58, 79, 95, 111, 126, 45],
   [46, 48, 57, 65, 90, 97, 122, 58],
   [82, 95, 114, 126, 45, 46, 48, 57],
   [65, 90, 97, 122, 58, 84, 95, 116],
   [126, 45, 46, 48, 57, 65, 90, 97],
   [122, 58, 69, 95, 101, 126, 45, 46],
   [48, 57, 65, 90, 97, 122, 58, 68],
   [95, 100, 126, 45, 46, 48, 57, 65],
   [90, 97, 122, 58, 95, 126, 45, 46],
   [48, 57, 65, 90, 97, 122, 58, 69],
   [95, 101, 126, 45, 46, 48, 57, 65],
   [90, 97, 122, 58, 82, 95, 114, 126],
   [45, 46, 48, 57, 65, 90, 97, 122],
   [45, 46, 58, 95, 126, 48, 57, 65],
   [90, 97, 122, 58, 65, 95, 97, 126],
   [45, 46, 48, 57, 66, 90, 98, 122],
   [58, 71, 95, 103, 126, 45, 46, 48],
   [57, 65, 90, 97, 122, 58, 69, 95],
   [101, 126, 45, 46, 48, 57, 65, 90],
   [97, 122, 58, 78, 95, 110, 126, 45],
   [46, 48, 57, 65, 90, 97, 122, 58],
   [84, 95, 116, 126, 45, 46, 48, 57],
   [65, 90, 97, 122, 58, 95, 126, 45],
   [46, 48, 57, 65, 90, 97, 122, 10],
   [13, 9, 10, 13, 32, 33, 126, 0]]

def rtspHeadersSingleLengths : RagelTable :=
  [[0, 24, 2, 3, 2, 4, 24, 7],
   [5, 5, 5, 3, 5, 5, 5, 5],
   [5, 5, 5, 5, 5, 5, 5, 3],
   [5, 5, 5, 5, 5, 5, 5, 5],
   [3, 7, 5, 5, 5, 5, 5, 5],
   [9, 5, 5, 5, 3, 5, 5, 5],
   [5, 5, 3, 5, 5, 5, 3, 5],
   [5, 3, 5, 5, 5, 3, 5, 5],
   [5, 5, 5, 5, 5, 3, 7, 5],
   [5, 5, 5, 5, 5, 5, 5, 5],
   [5, 5, 3, 5, 5, 5, 5, 3],
   [9, 5, 5, 5, 3, 7, 5, 5],
   [5, 5, 3, 5, 5, 5, 5, 3],
   [5, 5, 5, 5, 5, 5, 3, 7],
   [7, 5, 5, 5, 3, 5, 5, 5],
   [5, 3, 5, 5, 5, 3, 7, 5],
   [5, 5, 5, 5, 5, 5, 3, 5],
   [5, 5, 5, 5, 5, 5, 3, 7],
   [5, 5, 5, 5, 5, 5, 5, 5],
   [5, 3, 5, 5, 5, 5, 5, 5],
   [5, 5, 3, 2, 4, 0]]

def rtspHeadersRangeLengths : RagelTable :=
  [[0, 4, 0, 4, 1, 1, 4, 4],
   [4, 4, 4, 4, 4, 4, 4, 4],
   [4, 4, 4, 4, 4, 4, 4, 4],
   [4, 4, 4, 4, 4, 4, 4, 4],
   [4, 4, 4, 4, 4, 4, 4, 3],
   [4, 4, 4, 4, 4, 4, 4, 4],
   [4, 4, 4, 4, 4, 4, 4, 4],
   [4, 4, 4, 4, 4, 4, 4, 4],
   [4, 4, 4, 4, 4, 4, 4, 4],
   [4, 4, 3, 4, 4, 4, 4, 4],
   [4, 4, 4, 4, 4, 4, 4, 4],
   [4, 4, 4, 4, 4, 4, 4, 4],
   [4, 4, 4, 4, 4, 4, 4, 4],
   [4, 3, 4, 4, 4, 4, 4, 4],
   [4, 4, 4, 4, 4, 4, 4, 4],
   [4, 4, 4, 4, 4, 4, 4, 4],
   [4, 4, 4, 4, 4, 4, 4, 4],
   [4, 4, 4, 4, 4, 4, 4, 4],
   [4, 4, 4, 4, 4, 4, 4, 4],
   [4, 4, 4, 4, 3, 4, 4, 4],
   [4, 4, 4, 0, 1, 0]]

def rtspHeadersIndexOffsets : RagelTable :=
  [[0, 0, 29, 32, 40, 44, 50, 79],
   [91, 101, 111, 121, 129, 139, 149, 159],
   [169, 179, 189, 199, 209, 219, 229, 239],
   [247, 257, 267, 277, 287, 297, 307, 317],
   [327, 335, 347, 357, 367, 377, 387, 397],
   [406, 420, 430, 440, 450, 458, 468, 478],
   [488, 498, 508, 516, 526, 536, 546, 554],
   [564, 574, 582, 592, 602, 612, 620, 630],
   [640, 650, 660, 670, 680, 690, 698, 710],
   [720, 730, 740, 749, 759, 769, 779, 789],
   [799, 809, 819, 827, 837, 847, 857, 867],
   [875, 889, 899, 909, 919, 927, 939, 949],
   [959, 969, 979, 987, 997, 1007, 1017, 1027],
   [1035, 1045, 1054, 1064, 1074, 1084, 1094, 1102],
   [1114, 1126, 1136, 1146, 1156, 1164, 1174, 1184],
   [1194, 1204, 1212, 1222, 1232, 1242, 1250, 1262],
   [1272, 1282, 1292, 1302, 1312, 1322, 1332, 1340],
   [1350, 1360, 1370, 1380, 1390, 1400, 1410, 1418],
   [1430, 1440, 1450, 1460, 1470, 1480, 1490, 1500],
   [1510, 1520, 1528, 1538, 1548, 1557, 1567, 1577],
   [1587, 1597, 1607, 1615, 1618, 1624]]

def rtspHeadersIndicies : RagelTable :=
  [[0, 2, 4, 5, 6, 7, 8, 9],
   [10, 11, 12, 13, 3, 4, 5, 6],
   [7, 8, 9, 10, 11, 12, 13, 3],
   [3, 3, 3, 3, 1, 0, 2, 1],
   [14, 3, 3, 3, 3, 3, 3, 1],
   [15, 15, 16, 1, 17, 18, 19, 17],
   [16, 1, 0, 2, 4, 5, 6, 7],
   [8, 9, 10, 11, 12, 13, 3, 4],
   [5, 6, 7, 8, 9, 10, 11, 12],
   [13, 3, 3, 3, 3, 3, 1, 14],
   [20, 21, 3, 20, 21, 3, 3, 3],
   [3, 3, 1, 14, 22, 3, 22, 3],
   [3, 3, 3, 3, 1, 14, 23, 3],
   [23, 3, 3, 3, 3, 3, 1, 14],
   [24, 3, 24, 3, 3, 3, 3, 3],
   [1, 25, 3, 3, 3, 3, 3, 3],
   [1, 14, 26, 3, 26, 3, 3, 3],
   [3, 3, 1, 14, 27, 3, 27, 3],
   [3, 3, 3, 3, 1, 14, 28, 3],
   [28, 3, 3, 3, 3, 3, 1, 14],
   [29, 3, 29, 3, 3, 3, 3, 3],
   [1, 14, 30, 3, 30, 3, 3, 3],
   [3, 3, 1, 14, 31, 3, 31, 3],
   [3, 3, 3, 3, 1, 14, 32, 3],
   [32, 3, 3, 3, 3, 3, 1, 14],
   [33, 3, 33, 3, 3, 3, 3, 3],
   [1, 14, 34, 3, 34, 3, 3, 3],
   [3, 3, 1, 14, 35, 3, 35, 3],
   [3, 3, 3, 3, 1, 14, 36, 3],
   [36, 3, 3, 3, 3, 3, 1, 37],
   [3, 3, 3, 3, 3, 3, 1, 14],
   [38, 3, 38, 3, 3, 3, 3, 3],
   [1, 14, 39, 3, 39, 3, 3, 3],
   [3, 3, 1, 14, 40, 3, 40, 3],
   [3, 3, 3, 3, 1, 14, 41, 3],
   [41, 3, 3, 3, 3, 3, 1, 14],
   [42, 3, 42, 3, 3, 3, 3, 3],
   [1, 14, 43, 3, 43, 3, 3, 3],
   [3, 3, 1, 14, 44, 3, 44, 3],
   [3, 3, 3, 3, 1, 14, 45, 3],
   [45, 3, 3, 3, 3, 3, 1, 46],
   [3, 3, 3, 3, 3, 3, 1, 14],
   [47, 48, 3, 47, 48, 3, 3, 3],
   [3, 3, 1, 14, 49, 3, 49, 3],
   [3, 3, 3, 3, 1, 14, 50, 3],
   [50, 3, 3, 3, 3, 3, 1, 14],
   [51, 3, 51, 3, 3, 3, 3, 3],
   [1, 14, 52, 3, 52, 3, 3, 3],
   [3, 3, 1, 14, 53, 3, 53, 3],
   [3, 3, 3, 3, 1, 54, 3, 14],
   [3, 3, 3, 3, 3, 1, 14, 55],
   [56, 57, 3, 55, 56, 57, 3, 3],
   [3, 3, 3, 1, 14, 58, 3, 58],
   [3, 3, 3, 3, 3, 1, 14, 59],
   [3, 59, 3, 3, 3, 3, 3, 1],
   [14, 60, 3, 60, 3, 3, 3, 3],
   [3, 1, 61, 3, 3, 3, 3, 3],
   [3, 1, 14, 62, 3, 62, 3, 3],
   [3, 3, 3, 1, 14, 63, 3, 63],
   [3, 3, 3, 3, 3, 1, 14, 64],
   [3, 64, 3, 3, 3, 3, 3, 1],
   [14, 65, 3, 65, 3, 3, 3, 3],
   [3, 1, 14, 66, 3, 66, 3, 3],
   [3, 3, 3, 1, 67, 3, 3, 3],
   [3, 3, 3, 1, 14, 68, 3, 68],
   [3, 3, 3, 3, 3, 1, 14, 69],
   [3, 69, 3, 3, 3, 3, 3, 1],
   [14, 70, 3, 70, 3, 3, 3, 3],
   [3, 1, 71, 3, 3, 3, 3, 3],
   [3, 1, 14, 72, 3, 72, 3, 3],
   [3, 3, 3, 1, 14, 73, 3, 73],
   [3, 3, 3, 3, 3, 1, 74, 3],
   [3, 3, 3, 3, 3, 1, 14, 75],
   [3, 75, 3, 3, 3, 3, 3, 1],
   [14, 76, 3, 76, 3, 3, 3, 3],
   [3, 1, 14, 77, 3, 77, 3, 3],
   [3, 3, 3, 1, 78, 3, 3, 3],
   [3, 3, 3, 1, 14, 79, 3, 79],
   [3, 3, 3, 3, 3, 1, 14, 80],
   [3, 80, 3, 3, 3, 3, 3, 1],
   [14, 81, 3, 81, 3, 3, 3, 3],
   [3, 1, 14, 82, 3, 82, 3, 3],
   [3, 3, 3, 1, 14, 83, 3, 83],
   [3, 3, 3, 3, 3, 1, 14, 84],
   [3, 84, 3, 3, 3, 3, 3, 1],
   [14, 85, 3, 85, 3, 3, 3, 3],
   [3, 1, 86, 3, 3, 3, 3, 3],
   [3, 1, 14, 87, 88, 3, 87, 88],
   [3, 3, 3, 3, 3, 1, 14, 89],
   [3, 89, 3, 3, 3, 3, 3, 1],
   [14, 90, 3, 90, 3, 3, 3, 3],
   [3, 1, 14, 91, 3, 91, 3, 3],
   [3, 3, 3, 1, 92, 3, 14, 3],
   [3, 3, 3, 3, 1, 14, 93, 3],
   [93, 3, 3, 3, 3, 3, 1, 14],
   [94, 3, 94, 3, 3, 3, 3, 3],
   [1, 14, 95, 3, 95, 3, 3, 3],
   [3, 3, 1, 14, 96, 3, 96, 3],
   [3, 3, 3, 3, 1, 14, 97, 3],
   [97, 3, 3, 3, 3, 3, 1, 14],
   [98, 3, 98, 3, 3, 3, 3, 3],
   [1, 14, 99, 3, 99, 3, 3, 3],
   [3, 3, 1, 100, 3, 3, 3, 3],
   [3, 3, 1, 14, 101, 3, 101, 3],
   [3, 3, 3, 3, 1, 14, 102, 3],
   [102, 3, 3, 3, 3, 3, 1, 14],
   [103, 3, 103, 3, 3, 3, 3, 3],
   [1, 14, 104, 3, 104, 3, 3, 3],
   [3, 3, 1, 105, 3, 3, 3, 3],
   [3, 3, 1, 14, 106, 107, 108, 3],
   [106, 107, 108, 3, 3, 3, 3, 3],
   [1, 14, 109, 3, 109, 3, 3, 3],
   [3, 3, 1, 14, 110, 3, 110, 3],
   [3, 3, 3, 3, 1, 14, 111, 3],
   [111, 3, 3, 3, 3, 3, 1, 112],
   [3, 3, 3, 3, 3, 3, 1, 14],
   [113, 114, 3, 113, 114, 3, 3, 3],
   [3, 3, 1, 14, 115, 3, 115, 3],
   [3, 3, 3, 3, 1, 14, 116, 3],
   [116, 3, 3, 3, 3, 3, 1, 14],
   [117, 3, 117, 3, 3, 3, 3, 3],
   [1, 14, 118, 3, 118, 3, 3, 3],
   [3, 3, 1, 119, 3, 3, 3, 3],
   [3, 3, 1, 14, 120, 3, 120, 3],
   [3, 3, 3, 3, 1, 14, 121, 3],
   [121, 3, 3, 3, 3, 3, 1, 14],
   [122, 3, 122, 3, 3, 3, 3, 3],
   [1, 14, 123, 3, 123, 3, 3, 3],
   [3, 3, 1, 124, 3, 3, 3, 3],
   [3, 3, 1, 14, 125, 3, 125, 3],
   [3, 3, 3, 3, 1, 126, 3, 14],
   [3, 3, 3, 3, 3, 1, 14, 127],
   [3, 127, 3, 3, 3, 3, 3, 1],
   [14, 128, 3, 128, 3, 3, 3, 3],
   [3, 1, 14, 129, 3, 129, 3, 3],
   [3, 3, 3, 1, 14, 130, 3, 130],
   [3, 3, 3, 3, 3, 1, 131, 3],
   [3, 3, 3, 3, 3, 1, 14, 132],
   [133, 3, 132, 133, 3, 3, 3, 3],
   [3, 1, 14, 134, 135, 3, 134, 135],
   [3, 3, 3, 3, 3, 1, 14, 136],
   [3, 136, 3, 3, 3, 3, 3, 1],
   [14, 137, 3, 137, 3, 3, 3, 3],
   [3, 1, 14, 138, 3, 138, 3, 3],
   [3, 3, 3, 1, 139, 3, 3, 3],
   [3, 3, 3, 1, 14, 140, 3, 140],
   [3, 3, 3, 3, 3, 1, 14, 141],
   [3, 141, 3, 3, 3, 3, 3, 1],
   [14, 142, 3, 142, 3, 3, 3, 3],
   [3, 1, 14, 143, 3, 143, 3, 3],
   [3, 3, 3, 1, 144, 3, 3, 3],
   [3, 3, 3, 1, 14, 145, 3, 145],
   [3, 3, 3, 3, 3, 1, 14, 146],
   [3, 146, 3, 3, 3, 3, 3, 1],
   [14, 147, 3, 147, 3, 3, 3, 3],
   [3, 1, 148, 3, 3, 3, 3, 3],
   [3, 1, 14, 149, 150, 3, 149, 150],
   [3, 3, 3, 3, 3, 1, 14, 151],
   [3, 151, 3, 3, 3, 3, 3, 1],
   [14, 152, 3, 152, 3, 3, 3, 3],
   [3, 1, 14, 153, 3, 153, 3, 3],
   [3, 3, 3, 1, 14, 154, 3, 154],
   [3, 3, 3, 3, 3, 1, 14, 155],
   [3, 155, 3, 3, 3, 3, 3, 1],
   [14, 156, 3, 156, 3, 3, 3, 3],
   [3, 1, 14, 157, 3, 157, 3, 3],
   [3, 3, 3, 1, 158, 3, 3, 3],
   [3, 3, 3, 1, 14, 159, 3, 159],
   [3, 3, 3, 3, 3, 1, 14, 160],
   [3, 160, 3, 3, 3, 3, 3, 1],
   [14, 161, 3, 161, 3, 3, 3, 3],
   [3, 1, 14, 162, 3, 162, 3, 3],
   [3, 3, 3, 1, 14, 163, 3, 163],
   [3, 3, 3, 3, 3, 1, 14, 164],
   [3, 164, 3, 3, 3, 3, 3, 1],
   [14, 165, 3, 165, 3, 3, 3, 3],
   [3, 1, 166, 3, 3, 3, 3, 3],
   [3, 1, 14, 167, 168, 3, 167, 168],
   [3, 3, 3, 3, 3, 1, 14, 169],
   [3, 169, 3, 3, 3, 3, 3, 1],
   [14, 170, 3, 170, 3, 3, 3, 3],
   [3, 1, 14, 171, 3, 171, 3, 3],
   [3, 3, 3, 1, 14, 172, 3, 172],
   [3, 3, 3, 3, 3, 1, 14, 173],
   [3, 173, 3, 3, 3, 3, 3, 1],
   [14, 174, 3, 174, 3, 3, 3, 3],
   [3, 1, 14, 175, 3, 175, 3, 3],
   [3, 3, 3, 1, 14, 176, 3, 176],
   [3, 3, 3, 3, 3, 1, 14, 177],
   [3, 177, 3, 3, 3, 3, 3, 1],
   [178, 3, 3, 3, 3, 3, 3, 1],
   [14, 179, 3, 179, 3, 3, 3, 3],
   [3, 1, 14, 180, 3, 180, 3, 3],
   [3, 3, 3, 1, 181, 3, 14, 3],
   [3, 3, 3, 3, 1, 14, 182, 3],
   [182, 3, 3, 3, 3, 3, 1, 14],
   [183, 3, 183, 3, 3, 3, 3, 3],
   [1, 14, 184, 3, 184, 3, 3, 3],
   [3, 3, 1, 14, 185, 3, 185, 3],
   [3, 3, 3, 3, 1, 14, 186, 3],
   [186, 3, 3, 3, 3, 3, 1, 187],
   [3, 3, 3, 3, 3, 3, 1, 188],
   [189, 1, 190, 18, 19, 190, 191, 1],
   [1, 0]]

def rtspHeadersTransTargs : RagelTable :=
  [[165, 0, 2, 3, 7, 24, 33, 58],
   [62, 70, 88, 111, 126, 143, 4, 5],
   [164, 5, 6, 163, 8, 12, 9, 10],
   [11, 4, 13, 14, 15, 16, 17, 18],
   [19, 20, 21, 22, 23, 4, 25, 26],
   [27, 28, 29, 30, 31, 32, 4, 34],
   [55, 35, 36, 37, 38, 39, 40, 41],
   [45, 51, 42, 43, 44, 4, 46, 47],
   [48, 49, 50, 4, 52, 53, 54, 4],
   [56, 57, 4, 59, 60, 61, 4, 63],
   [64, 65, 66, 67, 68, 69, 4, 71],
   [83, 72, 73, 74, 75, 76, 77, 78],
   [79, 80, 81, 82, 4, 84, 85, 86],
   [87, 4, 89, 93, 104, 90, 91, 92],
   [4, 94, 99, 95, 96, 97, 98, 4],
   [100, 101, 102, 103, 4, 105, 106, 107],
   [108, 109, 110, 4, 112, 122, 113, 117],
   [114, 115, 116, 4, 118, 119, 120, 121],
   [4, 123, 124, 125, 4, 127, 135, 128],
   [129, 130, 131, 132, 133, 134, 4, 136],
   [137, 138, 139, 140, 141, 142, 4, 144],
   [154, 145, 146, 147, 148, 149, 150, 151],
   [152, 153, 4, 155, 156, 157, 158, 159],
   [160, 161, 162, 4, 6, 163, 164, 164]]

def rtspHeadersTransActions : RagelTable :=
  [[0, 0, 0, 0, 0, 0, 0, 0],
   [0, 0, 0, 0, 0, 0, 1, 3],
   [3, 77, 5, 5, 0, 0, 0, 0],
   [0, 11, 0, 0, 0, 0, 0, 0],
   [0, 0, 0, 0, 0, 14, 0, 0],
   [0, 0, 0, 0, 0, 0, 17, 0],
   [0, 0, 0, 0, 0, 0, 0, 0],
   [0, 0, 0, 0, 0, 23, 0, 0],
   [0, 0, 0, 26, 0, 0, 0, 29],
   [0, 0, 20, 0, 0, 0, 32, 0],
   [0, 0, 0, 0, 0, 0, 35, 0],
   [0, 0, 0, 0, 0, 0, 0, 0],
   [0, 0, 0, 0, 38, 0, 0, 0],
   [0, 41, 0, 0, 0, 0, 0, 0],
   [47, 0, 0, 0, 0, 0, 0, 50],
   [0, 0, 0, 0, 53, 0, 0, 0],
   [0, 0, 0, 44, 0, 0, 0, 0],
   [0, 0, 0, 56, 0, 0, 0, 0],
   [59, 0, 0, 0, 62, 0, 0, 0],
   [0, 0, 0, 0, 0, 0, 65, 0],
   [0, 0, 0, 0, 0, 0, 68, 0],
   [0, 0, 0, 0, 0, 0, 0, 0],
   [0, 0, 71, 0, 0, 0, 0, 0],
   [0, 0, 0, 74, 0, 0, 5, 0]]

def rtspHeadersFromStateActions : RagelTable :=
  [[0, 0, 0, 0, 0, 0, 7, 0],
   [0, 0, 0, 0, 0, 0, 0, 0],
   [0, 0, 0, 0, 0, 0, 0, 0],
   [0, 0, 0, 0, 0, 0, 0, 0],
   [0, 0, 0, 0, 0, 0, 0, 0],
   [0, 0, 0, 0, 0, 0, 0, 0],
   [0, 0, 0, 0, 0, 0, 0, 0],
   [0, 0, 0, 0, 0, 0, 0, 0],
   [0, 0, 0, 0, 0, 0, 0, 0],
   [0, 0, 0, 0, 0, 0, 0, 0],
   [0, 0, 0, 0, 0, 0, 0, 0],
   [0, 0, 0, 0, 0, 0, 0, 0],
   [0, 0, 0, 0, 0, 0, 0, 0],
   [0, 0, 0, 0, 0, 0, 0, 0],
   [0, 0, 0, 0, 0, 0, 0, 0],
   [0, 0, 0, 0, 0, 0, 0, 0],
   [0, 0, 0, 0, 0, 0, 0, 0],
   [0, 0, 0, 0, 0, 0, 0, 0],
   [0, 0, 0, 0, 0, 0, 0, 0],
   [0, 0, 0, 0, 0, 0, 0, 0],
   [0, 0, 0, 0, 0, 9]]

/- The tables of `ragel_read_rtsp_headers`. -/
def rtspHeadersTables : RagelTables where
  actions := rtspHeadersActions
  keyOffsets := rtspHeadersKeyOffsets
  transKeys := rtspHeadersTransKeys
  singleLengths := rtspHeadersSingleLengths
  rangeLengths := rtspHeadersRangeLengths
  indexOffsets := rtspHeadersIndexOffsets
  indicies := rtspHeadersIndicies
  transTargs := rtspHeadersTransTargs
  transActions := rtspHeadersTransActions
  toStateActions := []
  fromStateActions := rtspHeadersFromStateActions

theorem rtspHeadersFits : rtspHeadersTables.Fits where
  actions := by decide
  keyOffsets := by decide
  transKeys := by decide +kernel
  singleLengths := by decide
  rangeLengths := by decide
  indexOffsets := by decide
  indicies := by decide +kernel
  transTargs := by decide
  transActions := by decide

end Feng

------------------------------------------------------------
-- HTTP Headers
------------------------------------------------------------

namespace Feng

def httpHeadersActions : RagelTable :=
  [[0, 1, 0, 1, 11, 1, 12, 1],
   [13, 1, 14, 2, 0, 1, 2, 0],
   [2, 2, 0, 3, 2, 0, 4, 2],
   [0, 5, 2, 0, 6, 2, 0, 7],
   [2, 0, 8, 2, 0, 9, 2, 0],
   [10, 2, 11, 12]]

def httpHeadersKeyOffsets : RagelTable :=
  [[0, 0, 26, 28, 39, 43, 49, 75],
   [90, 103, 116, 129, 140, 153, 166, 179],
   [192, 205, 218, 231, 242, 255, 270, 283],
   [296, 309, 322, 335, 348, 359, 372, 385],
   [398, 409, 424, 437, 450, 463, 476, 489],
   [500, 513, 526, 539, 550, 563, 576, 589],
   [600, 613, 626, 639, 652, 665, 678, 689],
   [702, 715, 728, 741, 754, 765, 778, 791],
   [804, 817, 830, 841, 854, 867, 880, 891],
   [904, 917, 930, 943, 956, 967, 978, 991],
   [1004, 1017, 1030, 1043, 1056, 1069, 1082, 1095],
   [1108, 1121, 1134, 1147, 1158, 1160, 1166]]

def httpHeadersTransKeys : RagelTable :=
  [[10, 13, 67, 68, 69, 80, 83, 85],
   [88, 95, 99, 100, 101, 112, 115, 117],
   [120, 126, 45, 46, 48, 57, 65, 90],
   [97, 122, 10, 13, 58, 95, 126, 45],
   [46, 48, 57, 65, 90, 97, 122, 9],
   [32, 33, 126, 9, 10, 13, 32, 33],
   [126, 10, 13, 67, 68, 69, 80, 83],
   [85, 88, 95, 99, 100, 101, 112, 115],
   [117, 120, 126, 45, 46, 48, 57, 65],
   [90, 97, 122, 58, 65, 79, 95, 97],
   [111, 126, 45, 46, 48, 57, 66, 90],
   [98, 122, 58, 67, 95, 99, 126, 45],
   [46, 48, 57, 65, 90, 97, 122, 58],
   [72, 95, 104, 126, 45, 46, 48, 57],
   [65, 90, 97, 122, 58, 69, 95, 101],
   [126, 45, 46, 48, 57, 65, 90, 97],
   [122, 45, 46, 58, 95, 126, 48, 57],
   [65, 90, 97, 122, 58, 67, 95, 99],
   [126, 45, 46, 48, 57, 65, 90, 97],
   [122, 58, 79, 95, 111, 126, 45, 46],
   [48, 57, 65, 90, 97, 122, 58, 78],
   [95, 110, 126, 45, 46, 48, 57, 65],
   [90, 97, 122, 58, 84, 95, 116, 126],
   [45, 46, 48, 57, 65, 90, 97, 122],
   [58, 82, 95, 114, 126, 45, 46, 48],
   [57, 65, 90, 97, 122, 58, 79, 95],
   [111, 126, 45, 46, 48, 57, 65, 90],
   [97, 122, 58, 76, 95, 108, 126, 45],
   [46, 48, 57, 65, 90, 97, 122, 58],
   [95, 126, 45, 46, 48, 57, 65, 90],
   [97, 122, 58, 78, 95, 110, 126, 45],
   [46, 48, 57, 65, 90, 97, 122, 58],
   [78, 84, 95, 110, 116, 126, 45, 46],
   [48, 57, 65, 90, 97, 122, 58, 69],
   [95, 101, 126, 45, 46, 48, 57, 65],
   [90, 97, 122, 58, 67, 95, 99, 126],
   [45, 46, 48, 57, 65, 90, 97, 122],
   [58, 84, 95, 116, 126, 45, 46, 48],
   [57, 65, 90, 97, 122, 58, 73, 95],
   [105, 126, 45, 46, 48, 57, 65, 90],
   [97, 122, 58, 79, 95, 111, 126, 45],
   [46, 48, 57, 65, 90, 97, 122, 58],
   [78, 95, 110, 126, 45, 46, 48, 57],
   [65, 90, 97, 122, 58, 95, 126, 45],
   [46, 48, 57, 65, 90, 97, 122, 58],
   [69, 95, 101, 126, 45, 46, 48, 57],
   [65, 90, 97, 122, 58, 78, 95, 110],
   [126, 45, 46, 48, 57, 65, 90, 97],
   [122, 58, 84, 95, 116, 126, 45, 46],
   [48, 57, 65, 90, 97, 122, 45, 46],
   [58, 95, 126, 48, 57, 65, 90, 97],
   [122, 58, 76, 84, 95, 108, 116, 126],
   [45, 46, 48, 57, 65, 90, 97, 122],
   [58, 69, 95, 101, 126, 45, 46, 48],
   [57, 65, 90, 97, 122, 58, 78, 95],
   [110, 126, 45, 46, 48, 57, 65, 90],
   [97, 122, 58, 71, 95, 103, 126, 45],
   [46, 48, 57, 65, 90, 97, 122, 58],
   [84, 95, 116, 126, 45, 46, 48, 57],
   [65, 90, 97, 122, 58, 72, 95, 104],
   [126, 45, 46, 48, 57, 65, 90, 97],
   [122, 58, 95, 126, 45, 46, 48, 57],
   [65, 90, 97, 122, 58, 89, 95, 121],
   [126, 45, 46, 48, 57, 65, 90, 97],
   [122, 58, 80, 95, 112, 126, 45, 46],
   [48, 57, 65, 90, 97, 122, 58, 69],
   [95, 101, 126, 45, 46, 48, 57, 65],
   [90, 97, 122, 58, 95, 126, 45, 46],
   [48, 57, 65, 90, 97, 122, 58, 65],
   [95, 97, 126, 45, 46, 48, 57, 66],
   [90, 98, 122, 58, 84, 95, 116, 126],
   [45, 46, 48, 57, 65, 90, 97, 122],
   [58, 69, 95, 101, 126, 45, 46, 48],
   [57, 65, 90, 97, 122, 58, 95, 126],
   [45, 46, 48, 57, 65, 90, 97, 122],
   [58, 88, 95, 120, 126, 45, 46, 48],
   [57, 65, 90, 97, 122, 58, 80, 95],
   [112, 126, 45, 46, 48, 57, 65, 90],
   [97, 122, 58, 73, 95, 105, 126, 45],
   [46, 48, 57, 65, 90, 97, 122, 58],
   [82, 95, 114, 126, 45, 46, 48, 57],
   [65, 90, 97, 122, 58, 69, 95, 101],
   [126, 45, 46, 48, 57, 65, 90, 97],
   [122, 58, 83, 95, 115, 126, 45, 46],
   [48, 57, 65, 90, 97, 122, 58, 95],
   [126, 45, 46, 48, 57, 65, 90, 97],
   [122, 58, 82, 95, 114, 126, 45, 46],
   [48, 57, 65, 90, 97, 122, 58, 65],
   [95, 97, 126, 45, 46, 48, 57, 66],
   [90, 98, 122, 58, 71, 95, 103, 126],
   [45, 46, 48, 57, 65, 90, 97, 122],
   [58, 77, 95, 109, 126, 45, 46, 48],
   [57, 65, 90, 97, 122, 58, 65, 95],
   [97, 126, 45, 46, 48, 57, 66, 90],
   [98, 122, 58, 95, 126, 45, 46, 48],
   [57, 65, 90, 97, 122, 58, 69, 95],
   [101, 126, 45, 46, 48, 57, 65, 90],
   [97, 122, 58, 82, 95, 114, 126, 45],
   [46, 48, 57, 65, 90, 97, 122, 58],
   [86, 95, 118, 126, 45, 46, 48, 57],
   [65, 90, 97, 122, 58, 69, 95, 101],
   [126, 45, 46, 48, 57, 65, 90, 97],
   [122, 58, 82, 95, 114, 126, 45, 46],
   [48, 57, 65, 90, 97, 122, 58, 95],
   [126, 45, 46, 48, 57, 65, 90, 97],
   [122, 58, 83, 95, 115, 126, 45, 46],
   [48, 57, 65, 90, 97, 122, 58, 69],
   [95, 101, 126, 45, 46, 48, 57, 65],
   [90, 97, 122, 58, 82, 95, 114, 126],
   [45, 46, 48, 57, 65, 90, 97, 122],
   [45, 46, 58, 95, 126, 48, 57, 65],
   [90, 97, 122, 58, 65, 95, 97, 126],
   [45, 46, 48, 57, 66, 90, 98, 122],
   [58, 71, 95, 103, 126, 45, 46, 48],
   [57, 65, 90, 97, 122, 58, 69, 95],
   [101, 126, 45, 46, 48, 57, 65, 90],
   [97, 122, 58, 78, 95, 110, 126, 45],
   [46, 48, 57, 65, 90, 97, 122, 58],
   [84, 95, 116, 126, 45, 46, 48, 57],
   [65, 90, 97, 122, 58, 95, 126, 45],
   [46, 48, 57, 65, 90, 97, 122, 45],
   [46, 58, 95, 126, 48, 57, 65, 90],
   [97, 122, 58, 83, 95, 115, 126, 45],
   [46, 48, 57, 65, 90, 97, 122, 58],
   [69, 95, 101, 126, 45, 46, 48, 57],
   [65, 90, 97, 122, 58, 83, 95, 115],
   [126, 45, 46, 48, 57, 65, 90, 97],
   [122, 58, 83, 95, 115, 126, 45, 46],
   [48, 57, 65, 90, 97, 122, 58, 73],
   [95, 105, 126, 45, 46, 48, 57, 65],
   [90, 97, 122, 58, 79, 95, 111, 126],
   [45, 46, 48, 57, 65, 90, 97, 122],
   [58, 78, 95, 110, 126, 45, 46, 48],
   [57, 65, 90, 97, 122, 58, 67, 95],
   [99, 126, 45, 46, 48, 57, 65, 90],
   [97, 122, 58, 79, 95, 111, 126, 45],
   [46, 48, 57, 65, 90, 97, 122, 58],
   [79, 95, 111, 126, 45, 46, 48, 57],
   [65, 90, 97, 122, 58, 75, 95, 107],
   [126, 45, 46, 48, 57, 65, 90, 97],
   [122, 58, 73, 95, 105, 126, 45, 46],
   [48, 57, 65, 90, 97, 122, 58, 69],
   [95, 101, 126, 45, 46, 48, 57, 65],
   [90, 97, 122, 58, 95, 126, 45, 46],
   [48, 57, 65, 90, 97, 122, 10, 13],
   [9, 10, 13, 32, 33, 126, 0]]

def httpHeadersSingleLengths : RagelTable :=
  [[0, 18, 2, 3, 2, 4, 18, 7],
   [5, 5, 5, 5, 5, 5, 5, 5],
   [5, 5, 5, 3, 5, 7, 5, 5],
   [5, 5, 5, 5, 3, 5, 5, 5],
   [5, 7, 5, 5, 5, 5, 5, 3],
   [5, 5, 5, 3, 5, 5, 5, 3],
   [5, 5, 5, 5, 5, 5, 3, 5],
   [5, 5, 5, 5, 3, 5, 5, 5],
   [5, 5, 3, 5, 5, 5, 5, 5],
   [5, 5, 5, 5, 3, 5, 5, 5],
   [5, 5, 5, 5, 5, 5, 5, 5],
   [5, 5, 5, 3, 2, 4, 0]]

def httpHeadersRangeLengths : RagelTable :=
  [[0, 4, 0, 4, 1, 1, 4, 4],
   [4, 4, 4, 3, 4, 4, 4, 4],
   [4, 4, 4, 4, 4, 4, 4, 4],
   [4, 4, 4, 4, 4, 4, 4, 4],
   [3, 4, 4, 4, 4, 4, 4, 4],
   [4, 4, 4, 4, 4, 4, 4, 4],
   [4, 4, 4, 4, 4, 4, 4, 4],
   [4, 4, 4, 4, 4, 4, 4, 4],
   [4, 4, 4, 4, 4, 4, 3, 4],
   [4, 4, 4, 4, 4, 3, 4, 4],
   [4, 4, 4, 4, 4, 4, 4, 4],
   [4, 4, 4, 4, 0, 1, 0]]

def httpHeadersIndexOffsets : RagelTable :=
  [[0, 0, 23, 26, 34, 38, 44, 67],
   [79, 89, 99, 109, 118, 128, 138, 148],
   [158, 168, 178, 188, 196, 206, 218, 228],
   [238, 248, 258, 268, 278, 286, 296, 306],
   [316, 325, 337, 347, 357, 367, 377, 387],
   [395, 405, 415, 425, 433, 443, 453, 463],
   [471, 481, 491, 501, 511, 521, 531, 539],
   [549, 559, 569, 579, 589, 597, 607, 617],
   [627, 637, 647, 655, 665, 675, 685, 694],
   [704, 714, 724, 734, 744, 752, 761, 771],
   [781, 791, 801, 811, 821, 831, 841, 851],
   [861, 871, 881, 891, 899, 902, 908]]

def httpHeadersIndicies : RagelTable :=
  [[0, 2, 4, 5, 6, 7, 8, 9],
   [10, 3, 4, 5, 6, 7, 8, 9],
   [10, 3, 3, 3, 3, 3, 1, 0],
   [2, 1, 11, 3, 3, 3, 3, 3],
   [3, 1, 12, 12, 13, 1, 14, 15],
   [16, 14, 13, 1, 0, 2, 4, 5],
   [6, 7, 8, 9, 10, 3, 4, 5],
   [6, 7, 8, 9, 10, 3, 3, 3],
   [3, 3, 1, 11, 17, 18, 3, 17],
   [18, 3, 3, 3, 3, 3, 1, 11],
   [19, 3, 19, 3, 3, 3, 3, 3],
   [1, 11, 20, 3, 20, 3, 3, 3],
   [3, 3, 1, 11, 21, 3, 21, 3],
   [3, 3, 3, 3, 1, 22, 3, 11],
   [3, 3, 3, 3, 3, 1, 11, 23],
   [3, 23, 3, 3, 3, 3, 3, 1],
   [11, 24, 3, 24, 3, 3, 3, 3],
   [3, 1, 11, 25, 3, 25, 3, 3],
   [3, 3, 3, 1, 11, 26, 3, 26],
   [3, 3, 3, 3, 3, 1, 11, 27],
   [3, 27, 3, 3, 3, 3, 3, 1],
   [11, 28, 3, 28, 3, 3, 3, 3],
   [3, 1, 11, 29, 3, 29, 3, 3],
   [3, 3, 3, 1, 30, 3, 3, 3],
   [3, 3, 3, 1, 11, 31, 3, 31],
   [3, 3, 3, 3, 3, 1, 11, 32],
   [33, 3, 32, 33, 3, 3, 3, 3],
   [3, 1, 11, 34, 3, 34, 3, 3],
   [3, 3, 3, 1, 11, 35, 3, 35],
   [3, 3, 3, 3, 3, 1, 11, 36],
   [3, 36, 3, 3, 3, 3, 3, 1],
   [11, 37, 3, 37, 3, 3, 3, 3],
   [3, 1, 11, 38, 3, 38, 3, 3],
   [3, 3, 3, 1, 11, 39, 3, 39],
   [3, 3, 3, 3, 3, 1, 40, 3],
   [3, 3, 3, 3, 3, 1, 11, 41],
   [3, 41, 3, 3, 3, 3, 3, 1],
   [11, 42, 3, 42, 3, 3, 3, 3],
   [3, 1, 11, 43, 3, 43, 3, 3],
   [3, 3, 3, 1, 44, 3, 11, 3],
   [3, 3, 3, 3, 1, 11, 45, 46],
   [3, 45, 46, 3, 3, 3, 3, 3],
   [1, 11, 47, 3, 47, 3, 3, 3],
   [3, 3, 1, 11, 48, 3, 48, 3],
   [3, 3, 3, 3, 1, 11, 49, 3],
   [49, 3, 3, 3, 3, 3, 1, 11],
   [50, 3, 50, 3, 3, 3, 3, 3],
   [1, 11, 51, 3, 51, 3, 3, 3],
   [3, 3, 1, 52, 3, 3, 3, 3],
   [3, 3, 1, 11, 53, 3, 53, 3],
   [3, 3, 3, 3, 1, 11, 54, 3],
   [54, 3, 3, 3, 3, 3, 1, 11],
   [55, 3, 55, 3, 3, 3, 3, 3],
   [1, 56, 3, 3, 3, 3, 3, 3],
   [1, 11, 57, 3, 57, 3, 3, 3],
   [3, 3, 1, 11, 58, 3, 58, 3],
   [3, 3, 3, 3, 1, 11, 59, 3],
   [59, 3, 3, 3, 3, 3, 1, 60],
   [3, 3, 3, 3, 3, 3, 1, 11],
   [61, 3, 61, 3, 3, 3, 3, 3],
   [1, 11, 62, 3, 62, 3, 3, 3],
   [3, 3, 1, 11, 63, 3, 63, 3],
   [3, 3, 3, 3, 1, 11, 64, 3],
   [64, 3, 3, 3, 3, 3, 1, 11],
   [65, 3, 65, 3, 3, 3, 3, 3],
   [1, 11, 66, 3, 66, 3, 3, 3],
   [3, 3, 1, 67, 3, 3, 3, 3],
   [3, 3, 1, 11, 68, 3, 68, 3],
   [3, 3, 3, 3, 1, 11, 69, 3],
   [69, 3, 3, 3, 3, 3, 1, 11],
   [70, 3, 70, 3, 3, 3, 3, 3],
   [1, 11, 71, 3, 71, 3, 3, 3],
   [3, 3, 1, 11, 72, 3, 72, 3],
   [3, 3, 3, 3, 1, 73, 3, 3],
   [3, 3, 3, 3, 1, 11, 74, 3],
   [74, 3, 3, 3, 3, 3, 1, 11],
   [75, 3, 75, 3, 3, 3, 3, 3],
   [1, 11, 76, 3, 76, 3, 3, 3],
   [3, 3, 1, 11, 77, 3, 77, 3],
   [3, 3, 3, 3, 1, 11, 78, 3],
   [78, 3, 3, 3, 3, 3, 1, 79],
   [3, 3, 3, 3, 3, 3, 1, 11],
   [80, 3, 80, 3, 3, 3, 3, 3],
   [1, 11, 81, 3, 81, 3, 3, 3],
   [3, 3, 1, 11, 82, 3, 82, 3],
   [3, 3, 3, 3, 1, 83, 3, 11],
   [3, 3, 3, 3, 3, 1, 11, 84],
   [3, 84, 3, 3, 3, 3, 3, 1],
   [11, 85, 3, 85, 3, 3, 3, 3],
   [3, 1, 11, 86, 3, 86, 3, 3],
   [3, 3, 3, 1, 11, 87, 3, 87],
   [3, 3, 3, 3, 3, 1, 11, 88],
   [3, 88, 3, 3, 3, 3, 3, 1],
   [89, 3, 3, 3, 3, 3, 3, 1],
   [90, 3, 11, 3, 3, 3, 3, 3],
   [1, 11, 91, 3, 91, 3, 3, 3],
   [3, 3, 1, 11, 92, 3, 92, 3],
   [3, 3, 3, 3, 1, 11, 93, 3],
   [93, 3, 3, 3, 3, 3, 1, 11],
   [94, 3, 94, 3, 3, 3, 3, 3],
   [1, 11, 95, 3, 95, 3, 3, 3],
   [3, 3, 1, 11, 96, 3, 96, 3],
   [3, 3, 3, 3, 1, 11, 97, 3],
   [97, 3, 3, 3, 3, 3, 1, 11],
   [98, 3, 98, 3, 3, 3, 3, 3],
   [1, 11, 99, 3, 99, 3, 3, 3],
   [3, 3, 1, 11, 100, 3, 100, 3],
   [3, 3, 3, 3, 1, 11, 101, 3],
   [101, 3, 3, 3, 3, 3, 1, 11],
   [102, 3, 102, 3, 3, 3, 3, 3],
   [1, 11, 103, 3, 103, 3, 3, 3],
   [3, 3, 1, 104, 3, 3, 3, 3],
   [3, 3, 1, 105, 106, 1, 107, 15],
   [16, 107, 108, 1, 1, 0]]

def httpHeadersTransTargs : RagelTable :=
  [[94, 0, 2, 3, 7, 44, 48, 55],
   [61, 67, 77, 4, 5, 93, 5, 6],
   [92, 8, 20, 9, 10, 11, 12, 13],
   [14, 15, 16, 17, 18, 19, 4, 21],
   [22, 29, 23, 24, 25, 26, 27, 28],
   [4, 30, 31, 32, 33, 34, 40, 35],
   [36, 37, 38, 39, 4, 41, 42, 43],
   [4, 45, 46, 47, 4, 49, 50, 51],
   [52, 53, 54, 4, 56, 57, 58, 59],
   [60, 4, 62, 63, 64, 65, 66, 4],
   [68, 69, 70, 71, 72, 73, 74, 75],
   [76, 4, 78, 79, 80, 81, 82, 83],
   [84, 85, 86, 87, 88, 89, 90, 91],
   [4, 6, 92, 93, 93]]

def httpHeadersTransActions : RagelTable :=
  [[0, 0, 0, 0, 0, 0, 0, 0],
   [0, 0, 0, 1, 3, 3, 41, 5],
   [5, 0, 0, 0, 0, 0, 0, 0],
   [0, 0, 0, 0, 0, 0, 11, 0],
   [0, 0, 0, 0, 0, 0, 0, 0],
   [14, 0, 0, 0, 0, 0, 0, 0],
   [0, 0, 0, 0, 17, 0, 0, 0],
   [20, 0, 0, 0, 23, 0, 0, 0],
   [0, 0, 0, 26, 0, 0, 0, 0],
   [0, 29, 0, 0, 0, 0, 0, 32],
   [0, 0, 0, 0, 0, 0, 0, 0],
   [0, 35, 0, 0, 0, 0, 0, 0],
   [0, 0, 0, 0, 0, 0, 0, 0],
   [38, 0, 0, 5, 0]]

def httpHeadersFromStateActions : RagelTable :=
  [[0, 0, 0, 0, 0, 0, 7, 0],
   [0, 0, 0, 0, 0, 0, 0, 0],
   [0, 0, 0, 0, 0, 0, 0, 0],
   [0, 0, 0, 0, 0, 0, 0, 0],
   [0, 0, 0, 0, 0, 0, 0, 0],
   [0, 0, 0, 0, 0, 0, 0, 0],
   [0, 0, 0, 0, 0, 0, 0, 0],
   [0, 0, 0, 0, 0, 0, 0, 0],
   [0, 0, 0, 0, 0, 0, 0, 0],
   [0, 0, 0, 0, 0, 0, 0, 0],
   [0, 0, 0, 0, 0, 0, 0, 0],
   [0, 0, 0, 0, 0, 0, 9]]

/- The tables of `ragel_read_http_headers`. -/
def httpHeadersTables : RagelTables where
  actions := httpHeadersActions
  keyOffsets := httpHeadersKeyOffsets
  transKeys := httpHeadersTransKeys
  singleLengths := httpHeadersSingleLengths
  rangeLengths := httpHeadersRangeLengths
  indexOffsets := httpHeadersIndexOffsets
  indicies := httpHeadersIndicies
  transTargs := httpHeadersTransTargs
  transActions := httpHeadersTransActions
  toStateActions := []
  fromStateActions := httpHeadersFromStateActions

theorem httpHeadersFits : httpHeadersTables.Fits where
  actions := by decide
  keyOffsets := by decide
  transKeys := by decide +kernel
  singleLengths := by decide
  rangeLengths := by decide
  indexOffsets := by decide
  indicies := by decide
  transTargs := by decide
  transActions := by decide

end Feng
