import BuildTriage.Charset.Property

/-!
# Lower case

The lower case of a text maps each character by the character database. One
mapping yields two characters, and one depends on its place: a capital sigma at the
end of a word has a form of its own. A word ends where, case-ignorable characters
aside, a cased character stands before and none after.
-/

namespace BuildTriage.Text

/-- The mappings to one character, in runs: the first character, the number of
characters, the step between them, and the distance, upwards for 0 and downwards
for 1. -/
def lowercaseRuns : List String :=
  ["65 26 1 0 32 192 23 1 0 32 216 7 1 0 32 256 24 2 0 1 306 3 2 0 1 313 8 2 0 1 330 23 2 0 1 376",
   "1 1 1 121 377 3 2 0 1 385 1 1 0 210 386 2 2 0 1 390 1 1 0 206 391 1 1 0 1 393 2 1 0 205 395 1",
   "1 0 1 398 1 1 0 79 399 1 1 0 202 400 1 1 0 203 401 1 1 0 1 403 1 1 0 205 404 1 1 0 207 406 1",
   "1 0 211 407 1 1 0 209 408 1 1 0 1 412 1 1 0 211 413 1 1 0 213 415 1 1 0 214 416 3 2 0 1 422 1",
   "1 0 218 423 1 1 0 1 425 1 1 0 218 428 1 1 0 1 430 1 1 0 218 431 1 1 0 1 433 2 1 0 217 435 2 2",
   "0 1 439 1 1 0 219 440 1 1 0 1 444 1 1 0 1 452 1 1 0 2 453 1 1 0 1 455 1 1 0 2 456 1 1 0 1 458",
   "1 1 0 2 459 9 2 0 1 478 9 2 0 1 497 1 1 0 2 498 2 2 0 1 502 1 1 1 97 503 1 1 1 56 504 20 2 0",
   "1 544 1 1 1 130 546 9 2 0 1 570 1 1 0 10795 571 1 1 0 1 573 1 1 1 163 574 1 1 0 10792 577 1 1",
   "0 1 579 1 1 1 195 580 1 1 0 69 581 1 1 0 71 582 5 2 0 1 880 2 2 0 1 886 1 1 0 1 895 1 1 0 116",
   "902 1 1 0 38 904 3 1 0 37 908 1 1 0 64 910 2 1 0 63 913 17 1 0 32 931 9 1 0 32 975 1 1 0 8",
   "984 12 2 0 1 1012 1 1 1 60 1015 1 1 0 1 1017 1 1 1 7 1018 1 1 0 1 1021 3 1 1 130 1024 16 1 0",
   "80 1040 32 1 0 32 1120 17 2 0 1 1162 27 2 0 1 1216 1 1 0 15 1217 7 2 0 1 1232 48 2 0 1 1329",
   "38 1 0 48 4256 38 1 0 7264 4295 1 1 0 7264 4301 1 1 0 7264 5024 80 1 0 38864 5104 6 1 0 8",
   "7312 43 1 1 3008 7357 3 1 1 3008 7680 75 2 0 1 7838 1 1 1 7615 7840 48 2 0 1 7944 8 1 1 8",
   "7960 6 1 1 8 7976 8 1 1 8 7992 8 1 1 8 8008 6 1 1 8 8025 4 2 1 8 8040 8 1 1 8 8072 8 1 1 8",
   "8088 8 1 1 8 8104 8 1 1 8 8120 2 1 1 8 8122 2 1 1 74 8124 1 1 1 9 8136 4 1 1 86 8140 1 1 1 9",
   "8152 2 1 1 8 8154 2 1 1 100 8168 2 1 1 8 8170 2 1 1 112 8172 1 1 1 7 8184 2 1 1 128 8186 2 1",
   "1 126 8188 1 1 1 9 8486 1 1 1 7517 8490 1 1 1 8383 8491 1 1 1 8262 8498 1 1 0 28 8544 16 1 0",
   "16 8579 1 1 0 1 9398 26 1 0 26 11264 48 1 0 48 11360 1 1 0 1 11362 1 1 1 10743 11363 1 1 1",
   "3814 11364 1 1 1 10727 11367 3 2 0 1 11373 1 1 1 10780 11374 1 1 1 10749 11375 1 1 1 10783",
   "11376 1 1 1 10782 11378 1 1 0 1 11381 1 1 0 1 11390 2 1 1 10815 11392 50 2 0 1 11499 2 2 0 1",
   "11506 1 1 0 1 42560 23 2 0 1 42624 14 2 0 1 42786 7 2 0 1 42802 31 2 0 1 42873 2 2 0 1 42877",
   "1 1 1 35332 42878 5 2 0 1 42891 1 1 0 1 42893 1 1 1 42280 42896 2 2 0 1 42902 10 2 0 1 42922",
   "1 1 1 42308 42923 1 1 1 42319 42924 1 1 1 42315 42925 1 1 1 42305 42926 1 1 1 42308 42928 1 1",
   "1 42258 42929 1 1 1 42282 42930 1 1 1 42261 42931 1 1 0 928 42932 8 2 0 1 42948 1 1 1 48",
   "42949 1 1 1 42307 42950 1 1 1 35384 42951 2 2 0 1 42960 1 1 0 1 42966 2 2 0 1 42997 1 1 0 1",
   "65313 26 1 0 32 66560 40 1 0 40 66736 36 1 0 40 66928 19 2 0 39 66929 5 2 0 39 66941 7 2 0 39",
   "66957 3 2 0 39 66965 1 1 0 39 68736 51 1 0 64 71840 32 1 0 32 93760 32 1 0 32 125184 34 1 0",
   "34"]

/-- A run of mappings. -/
structure CaseRun where
  /-- The first character. -/
  first : Nat
  /-- The number of characters. -/
  count : Nat
  /-- The step from one to the next. -/
  step : Nat
  /-- The distance is taken off. -/
  downwards : Bool
  /-- The distance to the lower case. -/
  distance : Nat

/-- The runs that a table writes. -/
def caseRuns : List Nat → List CaseRun
  | first :: count :: step :: down :: distance :: rest =>
    ⟨first, count, step, down == 1, distance⟩ :: caseRuns rest
  | _ => []

/-- All mappings to one character. -/
def lowercaseTable : List CaseRun := caseRuns (Charset.tableNumbers lowercaseRuns)

/-- The lower case of a character wherever it stands. -/
def lowerChar (c : Char) : List Char :=
  let n := c.toNat
  if n < 0x80 then [if 'A' ≤ c ∧ c ≤ 'Z' then Char.ofNat (n + 32) else c]
  else if n = 0x130 then ['i', Char.ofNat 0x307]
  else match lowercaseTable.find? fun r =>
      r.first ≤ n && (n - r.first) % r.step == 0 && (n - r.first) / r.step < r.count with
    | some r => [Char.ofNat (if r.downwards then n - r.distance else n + r.distance)]
    | none => [c]

/-- The characters with a case. -/
def cased : Charset := (Charset.property? "cased").getD []

/-- The characters that are passed over in looking for the end of a word. -/
def caseIgnorable : Charset := (Charset.property? "caseignorable").getD []

/-- Whether the first character that is not case-ignorable is cased. -/
def casedNext (cs : List Char) : Bool :=
  match cs.dropWhile (fun c => caseIgnorable.contains c.toNat) with
  | c :: _ => cased.contains c.toNat
  | [] => false

/-- The lower case of the rest of a text, after `before`, last character first. -/
def lowerAfter (before : List Char) : List Char → List Char
  | [] => []
  | c :: rest =>
    (if c = 'Σ' then
      [if casedNext before && !casedNext rest then 'ς' else 'σ']
    else lowerChar c) ++ lowerAfter (c :: before) rest

/-- The lower case of a text. -/
def lowercase (s : String) : String := String.ofList (lowerAfter [] s.toList)

end BuildTriage.Text
