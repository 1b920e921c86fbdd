/-
The data of quoted text: which characters are written as an escape because they show
nothing of their own.
-/
import Rerank.Text.CodeTable

namespace Rerank.Text.Printable

/-- The value 1 marks controls, format characters, the fillers of Hangul, surrogates, private
and unassigned code points, and every separator but the space. -/
@[irreducible] def unprintableTable : Text.StepTable :=
  .ofRuns <| Text.hexNumbers [
    "20 1 5f 0 22 1 c 0 1 1 2ca 0 2 1 6 0 4 1 7 0 1 1 1 0 1 1 14 0 1 1 18d 0 1 1 26 0 2 1 32 0 2 1",
    "3 0 1 1 37 0 8 1 1b 0 4 1 6 0 11 1 16 0 1 1 c0 0 1 1 30 0 2 1 3b 0 2 1 65 0 e 1 3b 0 2 1 31 0",
    "2 1 f 0 1 1 1c 0 2 1 1 0 1 1 b 0 5 1 20 0 7 1 4b 0 1 1 a1 0 1 1 8 0 2 1 2 0 2 1 16 0 1 1 7 0",
    "1 1 1 0 3 1 4 0 2 1 9 0 2 1 2 0 2 1 4 0 8 1 1 0 4 1 2 0 1 1 5 0 2 1 19 0 2 1 3 0 1 1 6 0 4 1",
    "2 0 2 1 16 0 1 1 7 0 1 1 2 0 1 1 2 0 1 1 2 0 2 1 1 0 1 1 5 0 4 1 2 0 2 1 3 0 3 1 1 0 7 1 4 0",
    "1 1 1 0 7 1 11 0 a 1 3 0 1 1 9 0 1 1 3 0 1 1 16 0 1 1 7 0 1 1 2 0 1 1 5 0 2 1 a 0 1 1 3 0 1 1",
    "3 0 2 1 1 0 f 1 4 0 2 1 c 0 7 1 7 0 1 1 3 0 1 1 8 0 2 1 2 0 2 1 16 0 1 1 7 0 1 1 2 0 1 1 5 0",
    "2 1 9 0 2 1 2 0 2 1 3 0 7 1 3 0 4 1 2 0 1 1 5 0 2 1 12 0 a 1 2 0 1 1 6 0 3 1 3 0 1 1 4 0 3 1",
    "2 0 1 1 1 0 1 1 2 0 3 1 2 0 3 1 3 0 3 1 c 0 4 1 5 0 3 1 3 0 1 1 4 0 2 1 1 0 6 1 1 0 e 1 15 0",
    "5 1 d 0 1 1 3 0 1 1 17 0 1 1 10 0 2 1 9 0 1 1 3 0 1 1 4 0 7 1 2 0 1 1 3 0 1 1 2 0 2 1 4 0 2 1",
    "a 0 7 1 16 0 1 1 3 0 1 1 17 0 1 1 a 0 1 1 5 0 2 1 9 0 1 1 3 0 1 1 4 0 7 1 2 0 5 1 3 0 1 1 4 0",
    "2 1 a 0 1 1 3 0 c 1 d 0 1 1 3 0 1 1 33 0 1 1 3 0 1 1 6 0 4 1 10 0 2 1 1a 0 1 1 3 0 1 1 12 0 3",
    "1 18 0 1 1 9 0 1 1 1 0 2 1 7 0 3 1 1 0 4 1 6 0 1 1 1 0 1 1 8 0 6 1 a 0 2 1 3 0 c 1 3a 0 4 1",
    "1d 0 25 1 2 0 1 1 1 0 1 1 5 0 1 1 18 0 1 1 1 0 1 1 17 0 2 1 5 0 1 1 1 0 1 1 7 0 1 1 a 0 2 1 4",
    "0 20 1 48 0 1 1 24 0 4 1 27 0 1 1 24 0 1 1 f 0 1 1 d 0 25 1 c6 0 1 1 1 0 5 1 1 0 2 1 8f 0 2 1",
    "e8 0 1 1 4 0 2 1 7 0 1 1 1 0 1 1 4 0 2 1 29 0 1 1 4 0 2 1 21 0 1 1 4 0 2 1 7 0 1 1 1 0 1 1 4",
    "0 2 1 f 0 1 1 39 0 1 1 4 0 2 1 43 0 2 1 20 0 3 1 1a 0 6 1 56 0 2 1 6 0 2 1 280 0 1 1 1c 0 3 1",
    "59 0 7 1 16 0 9 1 18 0 9 1 14 0 c 1 d 0 1 1 3 0 1 1 2 0 c 1 5e 0 2 1 a 0 6 1 a 0 6 1 e 0 1 1",
    "b 0 6 1 59 0 7 1 2b 0 5 1 46 0 a 1 1f 0 1 1 c 0 4 1 c 0 4 1 1 0 3 1 2a 0 2 1 5 0 b 1 2c 0 4 1",
    "1a 0 6 1 b 0 3 1 3e 0 2 1 41 0 1 1 1d 0 2 1 b 0 6 1 a 0 6 1 e 0 2 1 2e 0 2 1 c 0 14 1 4d 0 1",
    "1 a6 0 8 1 3c 0 3 1 f 0 3 1 3e 0 5 1 2b 0 2 1 b 0 8 1 2b 0 5 1 216 0 2 1 6 0 2 1 26 0 2 1 6 0",
    "2 1 8 0 1 1 1 0 1 1 1 0 1 1 1 0 1 1 1f 0 2 1 35 0 1 1 f 0 1 1 e 0 2 1 6 0 1 1 13 0 2 1 3 0 1",
    "1 9 0 11 1 18 0 8 1 2f 0 11 1 2 0 2 1 1b 0 1 1 d 0 3 1 22 0 e 1 21 0 f 1 8c 0 4 1 29a 0 16 1",
    "b 0 15 1 714 0 2 1 17e 0 5 1 2d 0 1 1 1 0 5 1 1 0 2 1 38 0 7 1 2 0 e 1 18 0 9 1 7 0 1 1 7 0 1",
    "1 7 0 1 1 7 0 1 1 7 0 1 1 7 0 1 1 7 0 1 1 7 0 1 1 7e 0 22 1 1a 0 1 1 59 0 c 1 d6 0 1a 1 10 0",
    "1 1 3f 0 1 1 56 0 2 1 67 0 5 1 2b 0 1 1 33 0 1 1 2a 0 1 1 56 0 9 1 30 0 1 1 726d 0 3 1 37 0 9",
    "1 15c 0 14 1 b8 0 8 1 dd 0 14 1 3c 0 3 1 a 0 6 1 38 0 8 1 46 0 8 1 c 0 6 1 74 0 b 1 1e 0 3 1",
    "4e 0 1 1 b 0 4 1 21 0 1 1 37 0 9 1 e 0 2 1 a 0 2 1 67 0 18 1 1c 0 a 1 6 0 2 1 6 0 2 1 6 0 9 1",
    "7 0 1 1 7 0 1 1 3c 0 4 1 7e 0 2 1 a 0 6 1 2ba4 0 c 1 17 0 4 1 31 0 2104 1 16e 0 2 1 6a 0 26 1",
    "7 0 c 1 5 0 5 1 1a 0 1 1 5 0 1 1 1 0 1 1 2 0 1 1 2 0 1 1 28a 0 20 1 2a 0 6 1 33 0 1 1 13 0 1",
    "1 4 0 4 1 5 0 1 1 87 0 4 1 9f 0 1 1 1e 0 3 1 6 0 2 1 6 0 2 1 6 0 2 1 3 0 3 1 7 0 1 1 7 0 d 1",
    "2 0 2 1 c 0 1 1 1a 0 1 1 13 0 1 1 2 0 1 1 f 0 2 1 e 0 22 1 7b 0 5 1 3 0 4 1 2d 0 3 1 58 0 1 1",
    "d 0 3 1 1 0 2f 1 2e 0 82 1 1d 0 3 1 31 0 f 1 1c 0 4 1 24 0 9 1 1e 0 5 1 2b 0 5 1 1e 0 1 1 25",
    "0 4 1 e 0 2a 1 9e 0 2 1 a 0 6 1 24 0 4 1 24 0 4 1 28 0 8 1 34 0 b 1 c 0 1 1 f 0 1 1 7 0 1 1 2",
    "0 1 1 b 0 1 1 f 0 1 1 7 0 1 1 2 0 3 1 34 0 c 1 137 0 9 1 16 0 a 1 8 0 18 1 6 0 1 1 2a 0 1 1 9",
    "0 45 1 6 0 2 1 1 0 1 1 2c 0 1 1 2 0 3 1 1 0 2 1 17 0 1 1 48 0 8 1 9 0 30 1 13 0 1 1 2 0 5 1",
    "21 0 3 1 1b 0 5 1 1b 0 26 1 38 0 4 1 14 0 2 1 32 0 1 1 2 0 5 1 8 0 1 1 3 0 1 1 1d 0 2 1 3 0 4",
    "1 a 0 7 1 9 0 7 1 40 0 20 1 27 0 4 1 c 0 9 1 36 0 3 1 1d 0 2 1 1b 0 5 1 1a 0 7 1 4 0 c 1 7 0",
    "50 1 49 0 37 1 33 0 d 1 33 0 7 1 2e 0 8 1 a 0 6 1 26 0 3 1 1d 0 8 1 2 0 d0 1 1f 0 1 1 2a 0 1",
    "1 3 0 2 1 2 0 10 1 6 0 8 1 9 0 21 1 2e 0 8 1 2a 0 16 1 1a 0 26 1 1c 0 14 1 17 0 9 1 4e 0 4 1",
    "24 0 9 1 3e 0 1 1 5 0 d 1 19 0 7 1 a 0 6 1 35 0 1 1 12 0 8 1 27 0 9 1 60 0 1 1 14 0 b 1 12 0",
    "1 1 2f 0 3e 1 7 0 1 1 1 0 1 1 4 0 1 1 f 0 1 1 b 0 6 1 3b 0 5 1 a 0 6 1 4 0 1 1 8 0 2 1 2 0 2",
    "1 16 0 1 1 7 0 1 1 2 0 1 1 5 0 1 1 a 0 2 1 2 0 2 1 3 0 2 1 1 0 6 1 1 0 5 1 7 0 2 1 7 0 3 1 5",
    "0 b 1 a 0 1 1 1 0 2 1 1 0 1 1 26 0 1 1 a 0 1 1 1 0 2 1 1 0 1 1 4 0 1 1 a 0 1 1 2 0 8 1 2 0 1d",
    "1 5c 0 1 1 5 0 1e 1 48 0 8 1 a 0 a6 1 36 0 2 1 26 0 22 1 45 0 b 1 a 0 6 1 d 0 13 1 3a 0 6 1 a",
    "0 6 1 14 0 1c 1 1b 0 2 1 f 0 4 1 17 0 b9 1 3c 0 64 1 53 0 c 1 8 0 2 1 1 0 2 1 8 0 1 1 2 0 1 1",
    "1e 0 1 1 2 0 2 1 c 0 9 1 a 0 46 1 8 0 2 1 2e 0 2 1 b 0 1b 1 48 0 8 1 53 0 d 1 49 0 7 1 a 0 56",
    "1 8 0 58 1 22 0 e 1 a 0 6 1 9 0 1 1 2d 0 1 1 e 0 a 1 1d 0 3 1 20 0 2 1 16 0 1 1 e 0 49 1 7 0",
    "1 1 2 0 1 1 2c 0 3 1 1 0 1 1 2 0 1 1 9 0 8 1 a 0 6 1 6 0 1 1 2 0 1 1 25 0 1 1 2 0 1 1 6 0 7 1",
    "a 0 6 1 2c 0 4 1 a 0 f6 1 19 0 7 1 11 0 1 1 29 0 3 1 1d 0 55 1 1 0 f 1 32 0 d 1 39b 0 66 1 6f",
    "0 1 1 5 0 b 1 c4 0 a4c 1 63 0 d 1 430 0 10 1 16 0 a 1 f9b 0 5 1 247 0 1ab9 1 3a 0 6c6 1 239 0",
    "7 1 1f 0 1 1 a 0 4 1 51 0 1 1 a 0 6 1 1e 0 2 1 6 0 a 1 46 0 a 1 a 0 1 1 7 0 1 1 15 0 5 1 13 0",
    "1b0 1 3a 0 c6 1 5b 0 5 1 19 0 2 1 19 0 2c 1 4b 0 4 1 39 0 7 1 11 0 40 1 5 0 b 1 7 0 9 1 1cd6",
    "0 29 1 20 0 61 1 73 0 21fd 1 4 0 1 1 7 0 1 1 2 0 1 1 123 0 f 1 1 0 1d 1 3 0 2 1 1 0 e 1 4 0 8",
    "1 18c 0 904 1 6b 0 5 1 d 0 3 1 9 0 7 1 a 0 2 1 4 0 f60 1 fd 0 3 1 1b4 0 6 1 17 0 f 1 11 0 f 1",
    "2e 0 2 1 17 0 9 1 74 0 3c 1 f6 0 a 1 27 0 2 1 4a 0 8 1 70 0 15 1 46 0 7a 1 14 0 c 1 14 0 c 1",
    "57 0 9 1 19 0 87 1 55 0 1 1 47 0 1 1 2 0 2 1 1 0 2 1 2 0 2 1 4 0 1 1 c 0 1 1 1 0 1 1 7 0 1 1",
    "41 0 1 1 4 0 2 1 8 0 1 1 7 0 1 1 1c 0 1 1 4 0 1 1 5 0 1 1 1 0 3 1 7 0 1 1 154 0 2 1 124 0 2 1",
    "2be 0 f 1 5 0 1 1 f 0 450 1 1f 0 6 1 6 0 d5 1 7 0 1 1 11 0 2 1 7 0 1 1 2 0 1 1 5 0 5 1 3e 0",
    "21 1 1 0 70 1 2d 0 3 1 e 0 2 1 a 0 4 1 2 0 140 1 1f 0 11 1 3a 0 5 1 1 0 1d0 1 2a 0 d6 1 2b 0",
    "4 1 1 0 c0 1 1f 0 1 1 16 0 8 1 2 0 e0 1 7 0 1 1 4 0 1 1 2 0 1 1 f 0 1 1 c5 0 2 1 10 0 29 1 4c",
    "0 4 1 a 0 4 1 2 0 311 1 44 0 4c 1 3d 0 c2 1 4 0 1 1 1b 0 1 1 2 0 1 1 1 0 2 1 1 0 1 1 a 0 1 1",
    "4 0 1 1 1 0 1 1 1 0 6 1 1 0 4 1 1 0 1 1 1 0 1 1 1 0 1 1 3 0 1 1 2 0 1 1 1 0 2 1 1 0 1 1 1 0 1",
    "1 1 0 1 1 1 0 1 1 1 0 1 1 2 0 1 1 1 0 2 1 4 0 1 1 7 0 1 1 4 0 1 1 4 0 1 1 1 0 1 1 a 0 1 1 11",
    "0 5 1 3 0 1 1 5 0 1 1 11 0 34 1 2 0 10e 1 2c 0 4 1 64 0 c 1 f 0 2 1 f 0 1 1 f 0 1 1 25 0 a 1",
    "ae 0 38 1 1d 0 d 1 2c 0 4 1 9 0 7 1 2 0 e 1 6 0 9a 1 3d9 0 3 1 11 0 3 1 d 0 3 1 da 0 6 1 c 0",
    "4 1 1 0 f 1 c 0 4 1 38 0 8 1 a 0 6 1 28 0 8 1 1e 0 2 1 c 0 4 1 2 0 e 1 9 0 27 1 158 0 8 1 e 0",
    "2 1 d 0 3 1 b 0 3 1 39 0 1 1 1 0 4 1 10 0 2 1 c 0 4 1 a 0 7 1 93 0 1 1 67 0 405 1 a6e0 0 20 1",
    "111e 0 2 1 168e 0 2 1 1d31 0 f 1 26e 0 9a2 1 21e 0 5e2 1 134b 0 5 1 212a 0 acc86 1 f0 0 2fe10",
    "1"]

/-- The value 1 marks the characters that extend the one before them. -/
@[irreducible] def extendTable : Text.StepTable :=
  .ofRuns <| Text.hexNumbers [
    "300 0 70 1 113 0 7 1 107 0 2d 1 1 0 1 1 1 0 2 1 1 0 2 1 1 0 1 1 48 0 b 1 30 0 15 1 10 0 1 1",
    "65 0 7 1 2 0 6 1 2 0 2 1 1 0 4 1 23 0 1 1 1e 0 1b 1 5b 0 b 1 3a 0 9 1 9 0 1 1 18 0 4 1 1 0 9",
    "1 1 0 3 1 1 0 5 1 2b 0 3 1 3b 0 9 1 2a 0 18 1 1 0 20 1 37 0 1 1 1 0 1 1 4 0 8 1 4 0 1 1 3 0 7",
    "1 a 0 2 1 1d 0 1 1 3a 0 1 1 1 0 1 1 2 0 4 1 8 0 1 1 9 0 1 1 a 0 2 1 1a 0 1 1 2 0 2 1 39 0 1 1",
    "4 0 2 1 4 0 2 1 2 0 3 1 3 0 1 1 1e 0 2 1 3 0 1 1 b 0 2 1 39 0 1 1 4 0 5 1 1 0 2 1 4 0 1 1 14",
    "0 2 1 16 0 6 1 1 0 1 1 3a 0 1 1 1 0 2 1 1 0 4 1 8 0 1 1 7 0 3 1 a 0 2 1 1e 0 1 1 3b 0 1 1 1 0",
    "1 1 c 0 1 1 9 0 1 1 28 0 1 1 3 0 1 1 37 0 1 1 1 0 3 1 5 0 3 1 1 0 4 1 7 0 2 1 b 0 2 1 1d 0 1",
    "1 3a 0 1 1 2 0 2 1 1 0 1 1 3 0 3 1 1 0 4 1 7 0 2 1 b 0 2 1 1c 0 2 1 39 0 2 1 1 0 1 1 2 0 4 1",
    "8 0 1 1 9 0 1 1 a 0 2 1 1d 0 1 1 48 0 1 1 4 0 1 1 2 0 3 1 1 0 1 1 8 0 1 1 51 0 1 1 2 0 7 1 c",
    "0 8 1 62 0 1 1 2 0 9 1 b 0 7 1 49 0 2 1 1b 0 1 1 1 0 1 1 1 0 1 1 37 0 e 1 1 0 5 1 1 0 2 1 5 0",
    "b 1 1 0 24 1 9 0 1 1 66 0 4 1 1 0 6 1 1 0 2 1 2 0 2 1 19 0 2 1 4 0 3 1 10 0 4 1 d 0 1 1 2 0 2",
    "1 6 0 1 1 f 0 1 1 2bf 0 3 1 3b2 0 4 1 1c 0 3 1 1d 0 2 1 1e 0 2 1 40 0 2 1 1 0 7 1 8 0 1 1 2 0",
    "b 1 9 0 1 1 2d 0 3 1 1 0 1 1 75 0 2 1 22 0 1 1 76 0 3 1 4 0 2 1 9 0 1 1 6 0 3 1 db 0 2 1 2 0",
    "1 1 3a 0 1 1 1 0 7 1 1 0 1 1 1 0 1 1 2 0 8 1 6 0 a 1 2 0 1 1 30 0 2e 1 2 0 c 1 14 0 4 1 30 0",
    "a 1 4 0 3 1 26 0 9 1 c 0 2 1 20 0 4 1 2 0 6 1 38 0 1 1 1 0 2 1 3 0 1 1 1 0 5 1 38 0 8 1 2 0 2",
    "1 98 0 3 1 1 0 d 1 1 0 7 1 4 0 1 1 6 0 1 1 3 0 2 1 c6 0 40 1 20c 0 1 1 c3 0 21 1 bfe 0 3 1 8d",
    "0 1 1 60 0 20 1 22a 0 6 1 69 0 2 1 75d4 0 4 1 1 0 a 1 20 0 2 1 50 0 2 1 110 0 1 1 3 0 1 1 4 0",
    "1 1 19 0 2 1 5 0 1 1 97 0 2 1 1a 0 12 1 d 0 1 1 26 0 8 1 19 0 b 1 1 0 1 1 2c 0 3 1 30 0 1 1 2",
    "0 4 1 2 0 2 1 2 0 1 1 24 0 1 1 43 0 6 1 2 0 2 1 2 0 2 1 c 0 1 1 8 0 1 1 2f 0 1 1 33 0 1 1 1 0",
    "3 1 2 0 2 1 5 0 2 1 1 0 1 1 2a 0 2 1 8 0 1 1 ee 0 1 1 2 0 1 1 4 0 1 1 4f30 0 1 1 2e1 0 10 1",
    "10 0 10 1 3cd 0 1 1 e2 0 1 1 95 0 5 1 686 0 3 1 1 0 2 1 5 0 4 1 28 0 3 1 4 0 1 1 a5 0 2 1 23d",
    "0 4 1 41 0 5 1 13d 0 2 1 4d 0 6 1 46 0 b 1 31 0 4 1 7b 0 1 1 36 0 f 1 29 0 1 1 2 0 2 1 a 0 3",
    "1 31 0 4 1 2 0 2 1 7 0 1 1 3d 0 3 1 24 0 5 1 1 0 8 1 3e 0 1 1 c 0 2 1 34 0 9 1 1 0 1 1 8 0 4",
    "1 2 0 1 1 5f 0 3 1 2 0 4 1 6 0 1 1 2 0 1 1 9d 0 1 1 3 0 8 1 15 0 2 1 39 0 2 1 1 0 1 1 1 0 1 1",
    "c 0 1 1 9 0 1 1 e 0 7 1 3 0 5 1 43 0 1 1 2 0 6 1 1 0 1 1 2 0 1 1 1 0 3 1 4 0 3 1 1 0 1 1 e 0",
    "2 1 55 0 8 1 2 0 3 1 1 0 1 1 17 0 1 1 51 0 1 1 2 0 6 1 1 0 1 1 2 0 1 1 1 0 2 1 1 0 2 1 eb 0 1",
    "1 2 0 4 1 6 0 2 1 1 0 2 1 1b 0 2 1 55 0 8 1 2 0 1 1 1 0 2 1 6a 0 1 1 1 0 1 1 2 0 8 1 65 0 1 1",
    "1 0 1 1 2 0 4 1 1 0 5 1 103 0 9 1 1 0 2 1 f5 0 1 1 a 0 4 1 4 0 1 1 90 0 4 1 2 0 2 1 4 0 1 1",
    "20 0 a 1 28 0 6 1 2 0 4 1 8 0 1 1 9 0 6 1 2 0 3 1 2e 0 d 1 1 0 2 1 c6 0 1 1 1 0 3 1 1 0 1 1",
    "c9 0 7 1 1 0 6 1 1 0 1 1 52 0 16 1 2 0 7 1 1 0 2 1 1 0 2 1 7a 0 6 1 3 0 1 1 1 0 2 1 1 0 7 1 1",
    "0 1 1 48 0 2 1 3 0 1 1 1 0 1 1 15b 0 2 1 b 0 2 1 34 0 5 1 5 0 3 1 17 0 1 1 14e5 0 1 1 6 0 f 1",
    "2cc8 0 c 1 3 0 3 1 9c0 0 5 1 3b 0 7 1 418 0 1 1 3f 0 4 1 51 0 1 1 b 0 2 1 4cab 0 2 1 1261 0",
    "2e 1 2 0 17 1 21e 0 5 1 3 0 6 1 8 0 8 1 2 0 7 1 1e 0 4 1 94 0 3 1 7bb 0 37 1 4 0 32 1 8 0 1 1",
    "e 0 1 1 16 0 5 1 1 0 f 1 550 0 7 1 1 0 11 1 2 0 7 1 1 0 2 1 1 0 5 1 64 0 1 1 a0 0 7 1 177 0 1",
    "1 3d 0 4 1 1fc 0 4 1 fe 0 2 1 f3 0 1 1 2 0 1 1 7 0 2 1 5 0 1 1 1da 0 7 1 6d 0 7 1 c16d5 0 60",
    "1 80 0 f0 1"]

end Rerank.Text.Printable
