/-
The data of the rules on marks and joiners: which characters are combining marks and how
the letters of cursive scripts join.
-/
import Rerank.Text.CodeTable

namespace Rerank.Domain.Joining

/-- The value 1 marks the combining marks. -/
@[irreducible] def markTable : Text.StepTable :=
  .ofRuns <| Text.hexNumbers [
    "300 0 70 1 113 0 7 1 107 0 2d 1 1 0 1 1 1 0 2 1 1 0 2 1 1 0 2 1 47 0 b 1 30 0 15 1 10 0 1 1",
    "65 0 7 1 2 0 6 1 2 0 2 1 1 0 4 1 23 0 1 1 1e 0 1b 1 5b 0 b 1 3a 0 9 1 9 0 1 1 18 0 4 1 1 0 9",
    "1 1 0 3 1 1 0 5 1 2b 0 3 1 3b 0 9 1 2a 0 18 1 1 0 21 1 36 0 3 1 1 0 12 1 1 0 7 1 a 0 2 1 1d 0",
    "3 1 38 0 1 1 1 0 7 1 2 0 2 1 2 0 3 1 9 0 1 1 a 0 2 1 1a 0 1 1 2 0 3 1 38 0 1 1 1 0 5 1 4 0 2",
    "1 2 0 3 1 3 0 1 1 1e 0 2 1 3 0 1 1 b 0 3 1 38 0 1 1 1 0 8 1 1 0 3 1 1 0 3 1 14 0 2 1 16 0 6 1",
    "1 0 3 1 38 0 1 1 1 0 7 1 2 0 2 1 2 0 3 1 7 0 3 1 a 0 2 1 1e 0 1 1 3b 0 5 1 3 0 3 1 1 0 4 1 9",
    "0 1 1 28 0 5 1 37 0 1 1 1 0 7 1 1 0 3 1 1 0 4 1 7 0 2 1 b 0 2 1 1d 0 3 1 38 0 1 1 1 0 7 1 1 0",
    "3 1 1 0 4 1 7 0 2 1 b 0 2 1 f 0 1 1 c 0 4 1 37 0 2 1 1 0 7 1 1 0 3 1 1 0 4 1 9 0 1 1 a 0 2 1",
    "1d 0 3 1 46 0 1 1 4 0 6 1 1 0 1 1 1 0 8 1 12 0 2 1 3d 0 1 1 2 0 7 1 c 0 8 1 62 0 1 1 2 0 9 1",
    "b 0 7 1 49 0 2 1 1b 0 1 1 1 0 1 1 1 0 1 1 4 0 2 1 31 0 14 1 1 0 2 1 5 0 b 1 1 0 24 1 9 0 1 1",
    "64 0 14 1 17 0 4 1 4 0 3 1 1 0 3 1 2 0 7 1 3 0 4 1 d 0 c 1 1 0 1 1 a 0 4 1 2bf 0 3 1 3b2 0 4",
    "1 1c 0 3 1 1d 0 2 1 1e 0 2 1 40 0 20 1 9 0 1 1 2d 0 3 1 1 0 1 1 75 0 2 1 22 0 1 1 76 0 c 1 4",
    "0 c 1 db 0 5 1 39 0 a 1 1 0 1d 1 2 0 1 1 30 0 2f 1 1 0 d 1 13 0 5 1 2f 0 11 1 26 0 9 1 c 0 3",
    "1 1e 0 d 1 38 0 e 1 30 0 14 1 98 0 3 1 1 0 15 1 4 0 1 1 6 0 1 1 2 0 3 1 c6 0 40 1 2d0 0 21 1",
    "bfe 0 3 1 8d 0 1 1 60 0 20 1 22a 0 6 1 69 0 2 1 75d4 0 4 1 1 0 a 1 20 0 2 1 50 0 2 1 110 0 1",
    "1 3 0 1 1 4 0 1 1 17 0 5 1 4 0 1 1 53 0 2 1 32 0 12 1 1a 0 12 1 d 0 1 1 26 0 8 1 19 0 d 1 2c",
    "0 4 1 2f 0 e 1 24 0 1 1 43 0 e 1 c 0 1 1 8 0 2 1 2d 0 3 1 32 0 1 1 1 0 3 1 2 0 2 1 5 0 2 1 1",
    "0 1 1 29 0 5 1 5 0 2 1 ec 0 8 1 1 0 2 1 4f30 0 1 1 2e1 0 10 1 10 0 10 1 3cd 0 1 1 e2 0 1 1 95",
    "0 5 1 686 0 3 1 1 0 2 1 5 0 4 1 28 0 3 1 4 0 1 1 a5 0 2 1 23d 0 4 1 41 0 5 1 13d 0 2 1 4d 0 6",
    "1 46 0 b 1 31 0 4 1 7a 0 3 1 35 0 f 1 29 0 1 1 2 0 2 1 a 0 4 1 2d 0 b 1 7 0 1 1 3d 0 3 1 24 0",
    "e 1 10 0 2 1 2c 0 1 1 c 0 3 1 30 0 e 1 8 0 4 1 1 0 2 1 5c 0 c 1 6 0 1 1 2 0 1 1 9d 0 c 1 15 0",
    "4 1 37 0 2 1 1 0 7 1 2 0 2 1 2 0 3 1 9 0 1 1 a 0 2 1 2 0 7 1 3 0 5 1 43 0 9 1 1 0 1 1 2 0 1 1",
    "1 0 4 1 1 0 5 1 1 0 1 1 e 0 2 1 52 0 12 1 17 0 1 1 51 0 14 1 eb 0 7 1 2 0 9 1 1b 0 2 1 52 0",
    "11 1 6a 0 d 1 65 0 f 1 100 0 f 1 f5 0 6 1 1 0 2 1 2 0 4 1 1 0 1 1 1 0 2 1 8d 0 7 1 2 0 7 1 3",
    "0 1 1 1c 0 a 1 28 0 7 1 1 0 4 1 8 0 1 1 9 0 b 1 2e 0 10 1 c6 0 8 1 c7 0 8 1 1 0 8 1 52 0 16 1",
    "1 0 e 1 7a 0 6 1 3 0 1 1 1 0 2 1 1 0 7 1 1 0 1 1 42 0 5 1 1 0 2 1 1 0 5 1 15b 0 4 1 9 0 2 1 1",
    "0 1 1 30 0 7 1 3 0 5 1 17 0 1 1 14e5 0 1 1 6 0 f 1 2cc8 0 12 1 9c0 0 5 1 3b 0 7 1 418 0 1 1 1",
    "0 37 1 7 0 4 1 51 0 1 1 b 0 2 1 4cab 0 2 1 1261 0 2e 1 2 0 17 1 21e 0 5 1 3 0 6 1 8 0 8 1 2 0",
    "7 1 1e 0 4 1 94 0 3 1 b 0 1 1 7af 0 37 1 4 0 32 1 8 0 1 1 e 0 1 1 16 0 5 1 1 0 f 1 550 0 7 1",
    "1 0 11 1 2 0 7 1 1 0 2 1 1 0 5 1 64 0 1 1 a0 0 7 1 177 0 1 1 3d 0 4 1 1fc 0 4 1 fe 0 2 1 f3 0",
    "1 1 2 0 1 1 7 0 2 1 5 0 1 1 1da 0 7 1 6d 0 7 1 c17b5 0 f0 1"]

/-- The joining type of each code point: 0 none, 1 to the left, 2 to the right, 3 to both
sides, 4 transparent. -/
@[irreducible] def joiningTable : Text.StepTable :=
  .ofRuns <| Text.hexNumbers [
    "ad 0 1 4 252 0 70 4 113 0 7 4 107 0 2d 4 1 0 1 4 1 0 2 4 1 0 2 4 1 0 2 4 47 0 b 4 1 0 1 4 3 0",
    "1 3 1 0 4 2 1 3 1 2 1 3 1 2 5 3 4 2 d 3 1 0 7 3 1 2 2 3 15 4 e 0 2 3 1 4 3 2 1 0 3 2 10 3 12",
    "2 26 3 1 2 2 3 9 2 1 3 1 2 1 3 1 2 2 3 2 2 1 0 1 2 7 4 2 0 6 4 2 0 2 4 1 0 4 4 2 2 a 0 3 3 2",
    "0 1 3 f 0 1 4 1 2 1 4 3 3 5 2 4 3 1 2 9 3 1 2 1 3 1 2 1 3 1 2 2 3 1 2 1b 4 2 0 1 2 b 3 3 2 f",
    "3 2 2 4 3 1 2 1 3 2 2 3 3 2 2 6 3 26 0 b 4 19 0 21 3 9 4 9 0 1 4 18 0 4 4 1 0 9 4 1 0 3 4 1 0",
    "5 4 12 0 1 2 5 3 2 2 1 3 1 2 a 3 1 2 1 3 3 2 3 4 4 0 1 3 1 0 4 3 1 0 1 2 1 3 2 2 5 0 13 2 3 0",
    "1 3 2 0 5 3 1 2 1 3 7 0 9 4 a 3 3 2 1 0 1 2 2 3 2 2 6 3 1 2 f 3 1 0 18 4 1 0 20 4 37 0 1 4 1",
    "0 1 4 4 0 8 4 4 0 1 4 3 0 7 4 a 0 2 4 1d 0 1 4 3a 0 1 4 4 0 4 4 8 0 1 4 14 0 2 4 1a 0 1 4 2 0",
    "2 4 39 0 1 4 4 0 2 4 4 0 2 4 2 0 3 4 3 0 1 4 1e 0 2 4 3 0 1 4 b 0 2 4 39 0 1 4 4 0 5 4 1 0 2",
    "4 4 0 1 4 14 0 2 4 16 0 6 4 1 0 1 4 3a 0 1 4 2 0 1 4 1 0 4 4 8 0 1 4 7 0 2 4 b 0 2 4 1e 0 1 4",
    "3d 0 1 4 c 0 1 4 32 0 1 4 3 0 1 4 37 0 1 4 1 0 3 4 5 0 3 4 1 0 4 4 7 0 2 4 b 0 2 4 1d 0 1 4",
    "3a 0 1 4 2 0 1 4 6 0 1 4 5 0 2 4 14 0 2 4 1c 0 2 4 39 0 2 4 4 0 4 4 8 0 1 4 14 0 2 4 1d 0 1 4",
    "48 0 1 4 7 0 3 4 1 0 1 4 5a 0 1 4 2 0 7 4 c 0 8 4 62 0 1 4 2 0 9 4 b 0 7 4 49 0 2 4 1b 0 1 4",
    "1 0 1 4 1 0 1 4 37 0 e 4 1 0 5 4 1 0 2 4 5 0 b 4 1 0 24 4 9 0 1 4 66 0 4 4 1 0 6 4 1 0 2 4 2",
    "0 2 4 19 0 2 4 4 0 3 4 10 0 4 4 d 0 1 4 2 0 2 4 6 0 1 4 f 0 1 4 2bf 0 3 4 3b2 0 3 4 1d 0 2 4",
    "1e 0 2 4 1e 0 2 4 40 0 2 4 1 0 7 4 8 0 1 4 2 0 b 4 9 0 1 4 29 0 1 3 3 0 3 4 1 0 1 4 10 0 59 3",
    "c 0 2 4 22 3 1 4 1 3 75 0 3 4 4 0 2 4 9 0 1 4 6 0 3 4 db 0 2 4 2 0 1 4 3a 0 1 4 1 0 7 4 1 0 1",
    "4 1 0 1 4 2 0 8 4 6 0 a 4 2 0 1 4 30 0 2f 4 1 0 d 4 13 0 4 4 30 0 1 4 1 0 4 4 2 0 1 4 2e 0 9",
    "4 c 0 2 4 20 0 4 4 2 0 2 4 1 0 3 4 38 0 1 4 1 0 2 4 3 0 1 4 1 0 3 4 3a 0 8 4 2 0 2 4 98 0 3 4",
    "1 0 d 4 1 0 7 4 4 0 1 4 6 0 1 4 3 0 2 4 c6 0 40 4 20b 0 1 4 2 0 2 4 1a 0 5 4 31 0 5 4 5 0 6 4",
    "60 0 21 4 bfe 0 3 4 8d 0 1 4 60 0 20 4 22a 0 4 4 6b 0 2 4 75d4 0 4 4 1 0 a 4 20 0 2 4 50 0 2",
    "4 110 0 1 4 3 0 1 4 4 0 1 4 19 0 2 4 5 0 1 4 13 0 32 3 1 1 51 0 2 4 1a 0 12 4 d 0 1 4 26 0 8",
    "4 19 0 b 4 2e 0 3 4 30 0 1 4 2 0 4 4 2 0 2 4 27 0 1 4 43 0 6 4 2 0 2 4 2 0 2 4 c 0 1 4 8 0 1",
    "4 2f 0 1 4 33 0 1 4 1 0 3 4 2 0 2 4 5 0 2 4 1 0 1 4 2a 0 2 4 8 0 1 4 ee 0 1 4 2 0 1 4 4 0 1 4",
    "4f30 0 1 4 2e1 0 10 4 10 0 10 4 cf 0 1 4 f9 0 3 4 201 0 1 4 e2 0 1 4 95 0 5 4 686 0 3 4 1 0 2",
    "4 5 0 4 4 28 0 3 4 4 0 1 4 80 0 5 3 1 2 1 0 1 2 1 0 2 2 2 0 1 1 5 2 4 3 1 1 5 3 1 2 3 3 1 2 2",
    "0 1 2 2 4 4 0 4 3 1 2 90 0 1 3 1 2 1 3 3 2 3 3 1 2 2 3 1 2 1 3 2 2 1 3 1 2 17 0 4 2 2 3 151 0",
    "1 1 21 3 1 2 1 3 4 4 41 0 5 4 13d 0 2 4 15 0 1 2 2 3 1 0 2 3 32 0 6 4 30 0 3 3 1 2 11 3 1 0 b",
    "4 3 3 1 2 1b 0 4 3 2 2 c 3 4 4 2a 0 1 3 1 0 2 3 3 2 1 0 1 3 2 2 2 3 1 2 2 3 1 0 1 3 2 2 1 3 4",
    "0 1 2 1 3 1 1 35 0 1 4 36 0 f 4 29 0 1 4 2 0 2 4 a 0 3 4 31 0 4 4 2 0 2 4 7 0 1 4 3d 0 3 4 24",
    "0 5 4 1 0 8 4 3e 0 1 4 c 0 2 4 34 0 9 4 a 0 4 4 2 0 1 4 5f 0 3 4 2 0 1 4 1 0 2 4 6 0 1 4 2 0",
    "1 4 9d 0 1 4 3 0 8 4 15 0 2 4 39 0 2 4 3 0 1 4 25 0 7 4 3 0 5 4 46 0 6 4 d 0 1 4 1 0 1 4 1 0",
    "1 4 e 0 2 4 55 0 8 4 2 0 3 4 1 0 1 4 17 0 1 4 54 0 6 4 1 0 1 4 4 0 2 4 1 0 2 4 ee 0 4 4 6 0 2",
    "4 1 0 2 4 1b 0 2 4 55 0 8 4 2 0 1 4 1 0 2 4 6a 0 1 4 1 0 1 4 2 0 6 4 1 0 1 4 65 0 1 4 1 0 1 4",
    "2 0 4 4 1 0 5 4 103 0 9 4 1 0 2 4 100 0 2 4 1 0 1 4 4 0 1 4 90 0 4 4 2 0 2 4 4 0 1 4 20 0 a 4",
    "28 0 6 4 2 0 4 4 8 0 1 4 9 0 6 4 2 0 3 4 2e 0 d 4 1 0 2 4 c6 0 1 4 1 0 3 4 1 0 1 4 c9 0 7 4 1",
    "0 6 4 1 0 1 4 52 0 16 4 2 0 7 4 1 0 2 4 1 0 2 4 7a 0 6 4 3 0 1 4 1 0 2 4 1 0 7 4 1 0 1 4 48 0",
    "2 4 3 0 1 4 1 0 1 4 15b 0 2 4 b 0 2 4 34 0 5 4 5 0 1 4 1 0 1 4 17 0 1 4 14d5 0 11 4 6 0 f 4",
    "2cc8 0 c 4 3 0 3 4 9c0 0 5 4 3b 0 7 4 418 0 1 4 3f 0 4 4 51 0 1 4 4cb8 0 2 4 1 0 4 4 125c 0",
    "2e 4 2 0 17 4 220 0 3 4 9 0 10 4 2 0 7 4 1e 0 4 4 94 0 3 4 b 0 1 4 7af 0 37 4 4 0 32 4 8 0 1",
    "4 e 0 1 4 16 0 5 4 1 0 f 4 550 0 7 4 1 0 11 4 2 0 7 4 1 0 2 4 1 0 5 4 64 0 1 4 a0 0 7 4 177 0",
    "1 4 3d 0 4 4 1fc 0 4 4 fe 0 2 4 f3 0 1 4 2 0 1 4 7 0 2 4 5 0 1 4 1da 0 7 4 29 0 44 3 8 4",
    "c16b5 0 1 4 1e 0 60 4 80 0 f0 4"]

end Rerank.Domain.Joining
