/-
The data of the bidirectional rule: the directional class of each code point, as far
as the rule tells classes apart.
-/
import Rerank.Text.CodeTable

namespace Rerank.Domain.Bidi

/-- The class of each code point: 0 left to right, 1 right to left, 2 an Arabic number,
3 a European number, 4 neutral, 5 a nonspacing mark, 6 anything else. -/
@[irreducible] def classTable : Text.StepTable :=
  .ofRuns <| Text.hexNumbers [
    "9 4 5 6 e 4 5 6 f 4 a 3 7 4 1a 0 6 4 1a 0 a 4 1 6 24 4 1 0 7 4 2 3 1 4 1 0 3 4 1 3 1 0 5 4 17",
    "0 1 4 1f 0 1 4 1c1 0 2 4 7 0 e 4 2 0 e 4 5 0 9 4 1 0 11 4 70 5 4 0 2 4 8 0 1 4 5 0 2 4 1 0 1",
    "4 6e 0 1 4 8c 0 7 5 100 0 1 4 2 0 3 4 1 1 2d 5 1 1 1 5 1 1 2 5 1 1 2 5 1 1 2 5 37 1 6 2 2 4 1",
    "1 2 4 1 1 1 4 1 1 2 4 b 5 30 1 15 5 a 2 1 4 2 2 3 1 1 5 65 1 7 5 1 2 1 4 6 5 2 1 2 5 1 4 4 5",
    "2 1 a 3 17 1 1 5 1e 1 1b 5 5b 1 b 5 3a 1 9 5 2 1 4 4 3 1 1 5 18 1 4 5 1 1 9 5 1 1 3 5 1 1 5 5",
    "2b 1 3 5 34 1 2 2 5 1 9 5 2a 1 18 5 1 2 20 5 37 0 1 5 1 0 1 5 4 0 8 5 4 0 1 5 3 0 7 5 a 0 2 5",
    "1d 0 1 5 3a 0 1 5 4 0 4 5 8 0 1 5 14 0 2 5 e 0 2 4 7 0 1 4 2 0 1 5 2 0 2 5 39 0 1 5 4 0 2 5 4",
    "0 2 5 2 0 3 5 3 0 1 5 1e 0 2 5 3 0 1 5 b 0 2 5 39 0 1 5 4 0 5 5 1 0 2 5 4 0 1 5 14 0 2 5 d 0",
    "1 4 8 0 6 5 1 0 1 5 3a 0 1 5 2 0 1 5 1 0 4 5 8 0 1 5 7 0 2 5 b 0 2 5 1e 0 1 5 3d 0 1 5 c 0 1",
    "5 25 0 8 4 5 0 1 5 3 0 1 5 37 0 1 5 1 0 3 5 5 0 3 5 1 0 4 5 7 0 2 5 b 0 2 5 14 0 7 4 2 0 1 5",
    "3a 0 1 5 f 0 2 5 14 0 2 5 1c 0 2 5 39 0 2 5 4 0 4 5 8 0 1 5 14 0 2 5 1d 0 1 5 48 0 1 5 7 0 3",
    "5 1 0 1 5 5a 0 1 5 2 0 7 5 4 0 1 4 7 0 8 5 62 0 1 5 2 0 9 5 b 0 7 5 49 0 2 5 1b 0 1 5 1 0 1 5",
    "1 0 1 5 4 4 33 0 e 5 1 0 5 5 1 0 2 5 5 0 b 5 1 0 24 5 9 0 1 5 66 0 4 5 1 0 6 5 1 0 2 5 2 0 2",
    "5 19 0 2 5 4 0 3 5 10 0 4 5 d 0 1 5 2 0 2 5 6 0 1 5 f 0 1 5 2bf 0 3 5 30 0 a 4 66 0 1 4 27f 0",
    "1 6 1a 0 2 4 75 0 3 5 1d 0 2 5 1e 0 2 5 1e 0 2 5 40 0 2 5 1 0 7 5 8 0 1 5 2 0 b 5 7 0 1 4 1 0",
    "1 5 12 0 a 4 6 0 b 4 3 5 1 4 1 5 75 0 2 5 22 0 1 5 76 0 3 5 4 0 2 5 9 0 1 5 6 0 3 5 4 0 1 4 3",
    "0 2 4 98 0 22 4 17 0 2 5 2 0 1 5 3a 0 1 5 1 0 7 5 1 0 1 5 1 0 1 5 2 0 8 5 6 0 a 5 2 0 1 5 30",
    "0 2f 5 1 0 d 5 13 0 4 5 30 0 1 5 1 0 4 5 2 0 1 5 2e 0 9 5 c 0 2 5 20 0 4 5 2 0 2 5 1 0 3 5 38",
    "0 1 5 1 0 2 5 3 0 1 5 1 0 3 5 3a 0 8 5 2 0 2 5 98 0 3 5 1 0 d 5 1 0 7 5 4 0 1 5 6 0 1 5 3 0 2",
    "5 c6 0 40 5 1bd 0 1 4 1 0 3 4 b 0 3 4 d 0 3 4 d 0 3 4 d 0 2 4 1 0 b 6 3 4 1 0 1 1 18 4 7 6 30",
    "4 1 6 6 4 4 6 6 4 1 3 3 0 6 3 5 4 1 0 a 3 5 4 11 0 30 4 21 5 f 0 2 4 1 0 4 4 1 0 2 4 a 0 1 4",
    "1 0 3 4 5 0 6 4 1 0 1 4 1 0 1 4 1 0 1 4 4 0 1 4 b 0 2 4 4 0 5 4 5 0 4 4 2 0 10 4 29 0 3 4 4 0",
    "1a6 4 45 0 1a 4 1 0 94 4 16 0 b 4 15 0 28 4 14 3 4e 0 1c2 4 1 0 153 4 100 0 274 4 2 0 8a 4 e5",
    "0 6 4 4 0 3 5 7 0 7 4 7f 0 1 5 60 0 20 5 5e 4 22 0 1a 4 1 0 59 4 c 0 d6 4 1a 0 10 4 1 6 4 4 3",
    "0 19 4 9 0 4 5 2 0 1 4 5 0 2 4 5 0 3 4 59 0 2 5 2 4 3 0 1 4 5a 0 1 4 c4 0 26 4 9 0 1 4 2d 0 2",
    "4 31 0 10 4 1c 0 3 4 32 0 f 4 c 0 4 4 a7 0 4 4 63 0 2 4 1f 0 1 4 19c0 0 40 4 5690 0 37 4 146",
    "0 3 4 5f 0 4 5 1 4 a 5 2 4 1e 0 2 5 50 0 2 5 e 0 22 4 66 0 1 4 79 0 1 5 3 0 1 5 4 0 1 5 19 0",
    "2 5 1 0 4 4 1 5 b 0 2 4 3a 0 4 4 4c 0 2 5 1a 0 12 5 d 0 1 5 26 0 8 5 19 0 b 5 2e 0 3 5 30 0 1",
    "5 2 0 4 5 2 0 2 5 27 0 1 5 43 0 6 5 2 0 2 5 2 0 2 5 c 0 1 5 8 0 1 5 2f 0 1 5 33 0 1 5 1 0 3 5",
    "2 0 2 5 5 0 2 5 1 0 1 5 2a 0 2 5 8 0 1 5 73 0 2 4 79 0 1 5 2 0 1 5 4 0 1 5 4f2f 0 1 1 1 5 a 1",
    "1 4 99 1 10 4 16b 1 12 4 40 1 2 4 36 1 28 4 d 1 3 4 10 5 a 4 6 0 10 5 23 4 1 0 13 4 1 0 4 4 4",
    "0 8f 1 1 4 1 0 f 4 a 3 7 4 1a 0 6 4 1a 0 b 4 7a 0 7 4 1 0 7 4 1 0 10 4 101 0 1 4 3e 0 4d 4 3",
    "0 d 4 3 0 1 4 5c 0 1 5 e2 0 1 5 1b 3 7a 0 5 5 485 0 11f 1 1 4 e1 1 3 5 1 1 2 5 5 1 4 5 28 1 3",
    "5 4 1 1 5 a5 1 2 5 52 1 7 4 1e4 1 4 5 8 1 a 2 2f 1 5 5 1 4 f1 1 1f 2 2c 1 2 5 23 1 9 4 21 1 6",
    "5 46 1 b 5 31 1 4 5 7a 1 1 0 1 5 36 0 f 5 b 0 14 4 a 0 1 5 2 0 2 5 a 0 3 5 31 0 4 5 2 0 2 5 7",
    "0 1 5 3d 0 3 5 24 0 5 5 1 0 8 5 3e 0 1 5 c 0 2 5 34 0 9 5 a 0 4 5 2 0 1 5 5f 0 3 5 2 0 1 5 1",
    "0 2 5 6 0 1 5 2 0 1 5 9d 0 1 5 3 0 8 5 15 0 2 5 39 0 2 5 3 0 1 5 25 0 7 5 3 0 5 5 46 0 6 5 d",
    "0 1 5 1 0 1 5 1 0 1 5 e 0 2 5 55 0 8 5 2 0 3 5 1 0 1 5 17 0 1 5 54 0 6 5 1 0 1 5 4 0 2 5 1 0",
    "2 5 ee 0 4 5 6 0 2 5 1 0 2 5 1b 0 2 5 55 0 8 5 2 0 1 5 1 0 2 5 1f 0 d 4 3e 0 1 5 1 0 1 5 2 0",
    "6 5 1 0 1 5 65 0 1 5 1 0 1 5 2 0 4 5 1 0 5 5 103 0 9 5 1 0 2 5 100 0 2 5 1 0 1 5 4 0 1 5 90 0",
    "4 5 2 0 2 5 4 0 1 5 20 0 6 5 2 0 2 5 28 0 6 5 2 0 4 5 8 0 1 5 9 0 6 5 2 0 3 5 2e 0 d 5 1 0 2",
    "5 c6 0 1 5 1 0 3 5 1 0 1 5 c9 0 7 5 1 0 6 5 54 0 16 5 2 0 7 5 1 0 2 5 1 0 2 5 7a 0 6 5 3 0 1",
    "5 1 0 2 5 1 0 7 5 1 0 1 5 48 0 2 5 3 0 1 5 1 0 1 5 15b 0 2 5 b 0 2 5 34 0 5 5 5 0 1 5 1 0 1 5",
    "17 0 1 5 7a 0 1d 4 144e 0 1 5 6 0 f 5 2cc8 0 c 5 3 0 3 5 9c0 0 5 5 3b 0 7 5 418 0 1 5 3f 0 4",
    "5 4f 0 1 4 1 0 1 5 21bb 0 40 4 2abd 0 2 5 1 0 4 4 f5c 0 d6 4 1a 0 a 3 3 4 3 0 1b4 4 6 0 17 4",
    "f 0 11 4 f 0 2e 5 2 0 17 5 220 0 3 5 9 0 8 4 8 5 2 0 7 5 1e 0 4 5 3b 0 2 4 15 0 42 4 3 5 1 4",
    "a 0 1 5 3f 4 70 0 57 4 384 0 1 4 39 0 1 4 39 0 1 4 39 0 1 4 39 0 1 4 a 0 32 3 200 0 37 5 4 0",
    "32 5 8 0 1 5 e 0 1 5 16 0 5 5 1 0 f 5 550 0 7 5 1 0 11 5 2 0 7 5 1 0 2 5 1 0 5 5 64 0 1 5 a0",
    "0 7 5 177 0 1 5 3d 0 4 5 f 0 1 4 1ec 0 4 5 fe 0 2 5 f3 0 1 5 2 0 1 5 7 0 2 5 5 0 1 5 10a 0 d0",
    "1 7 5 6d 1 7 5 5a5 1 2 4 10e 1 2c 4 4 0 64 4 c 0 f 4 2 0 f 4 1 0 f 4 1 0 25 4 a 0 b 3 5 4 1f",
    "0 1 4 3a 0 6 4 3d 0 2 4 b1 0 6 4 9a 0 3da 4 2 0 11 4 3 0 d 4 3 0 da 4 6 0 c 4 4 0 2 4 e 0 c 4",
    "4 0 38 4 8 0 a 4 6 0 28 4 8 0 1e 4 2 0 c 4 4 0 2 4 e 0 9 4 27 0 158 4 8 0 e 4 2 0 d 4 3 0 47",
    "4 1 0 16 4 1 0 d 4 3 0 c 4 5 0 93 4 1 0 5c 4 a 3 1 4 403 0 2 4 fffe 0 2 4 fffe 0 2 4 fffe 0 2",
    "4 fffe 0 2 4 fffe 0 2 4 fffe 0 2 4 fffe 0 2 4 fffe 0 2 4 fffe 0 2 4 fffe 0 2 4 fffe 0 2 4",
    "fffe 0 102 4 f0 5 e10 4 effe 0 2 4 fffe 0 2 4 fffe 0 2 4"]

end Rerank.Domain.Bidi
