import InstanceIdentity.Charset.EastAsian.ChineseGrid
import InstanceIdentity.Charset.Sequence
import InstanceIdentity.Unicode.Table

/-!
# Charsets of mainland China

The older standard has the right half of the rows, up to a certain one. The newer one
adds the left half and further rows, and the latest one also sequences of four bytes,
so that all of Unicode has a place. HZ marks the older standard off in text of ASCII
characters alone.

## Main definitions

* `EastAsian.gb2312?`, `EastAsian.gbk?` — the character of two bytes in the older two
* `EastAsian.gb18030Front` — the first character in the latest one
* `EastAsian.hzFront` — the first character in HZ
-/

namespace InstanceIdentity

namespace EastAsian

/-- The character of two bytes in the newer standard. -/
def gbk? (first second : Nat) : Option Char :=
  (hanziLeft.character? first second).or (hanziRight.character? first second)

/-- The places in the right half that the older standard leaves empty, each with the last one of
its run. -/
def laterPlaces : List (Nat × Nat) :=
  [(0xA2A1, 0xA2AA), (0xA6E0, 0xA6F5), (0xA8BB, 0xA8C0)]

/-- The character of two bytes in the older standard. Two places have another form there. -/
def gb2312? (first second : Nat) : Option Char :=
  let place := 256 * first + second
  if place = 0xA1A4 then some '・'
  else if place = 0xA1AA then some '―'
  else if first < 0xA1 ∨ 0xF7 < first ∨ Unicode.isWithin laterPlaces place then none
  else hanziRight.character? first second

/-- The additions of two bytes, by runs: the first place, the last column, and the code point of
the first character. -/
def twoByteRuns : List (List Nat) :=
  Unicode.rows
    ["a140-a0-e4c6 a240-a0-e526 a2ab-b0-e766 a2e3-e3-20ac a2e4-e4-e76d a2ef-f0-e76e a2fd-fe-e770",
     "a340-a0-e586 a440-a0-e5e6 a4f4-fe-e772 a540-a0-e646 a5f7-fe-e77d a640-a0-e6a6 a6b9-c0-e785",
     "a6d9-df-e78d a6ec-ed-e794 a6f3-f3-e796 a6f6-fe-e797 a740-a0-e706 a7c2-d0-e7a0 a7f2-fe-e7af",
     "a896-a0-e7bc a8bc-bc-e7c7 a8bf-bf-1f9 a8c1-c4-e7c9 a8ea-fe-e7cd a958-58-e7e2 a95b-5b-e7e3",
     "a95d-5f-e7e4 a989-89-303e a98a-95-2ff0 a997-a3-e7f4 a9f0-fe-e801 aaa1-fe-e000 aba1-fe-e05e",
     "aca1-fe-e0bc ada1-fe-e11a aea1-fe-e178 afa1-fe-e1d6 d7fa-fe-e810 f8a1-fe-e234 f9a1-fe-e292",
     "faa1-fe-e2f0 fba1-fe-e34e fca1-fe-e3ac fda1-fe-e40a fe50-50-2e81 fe51-53-e816 fe54-54-2e84",
     "fe55-55-3473 fe56-56-3447 fe57-57-2e88 fe58-58-2e8b fe59-59-e81e fe5a-5a-359e fe5b-5b-361a",
     "fe5c-5c-360e fe5d-5d-2e8c fe5e-5e-2e97 fe5f-5f-396e fe60-60-3918 fe61-61-e826 fe62-62-39cf",
     "fe63-63-39df fe64-64-3a73 fe65-65-39d0 fe66-67-e82b fe68-68-3b4e fe69-69-3c6e fe6a-6a-3ce0",
     "fe6b-6b-2ea7 fe6c-6d-e831 fe6e-6e-2eaa fe6f-6f-4056 fe70-70-415f fe71-71-2eae fe72-72-4337",
     "fe73-73-2eb3 fe74-75-2eb6 fe76-76-e83b fe77-77-43b1 fe78-78-43ac fe79-79-2ebb fe7a-7a-43dd",
     "fe7b-7b-44d6 fe7c-7c-4661 fe7d-7d-464c fe7e-7e-e843 fe80-80-4723 fe81-81-4729 fe82-82-477c",
     "fe83-83-478d fe84-84-2eca fe85-85-4947 fe86-86-497a fe87-87-497d fe88-89-4982 fe8a-8b-4985",
     "fe8c-8c-499f fe8d-8d-499b fe8e-8e-49b7 fe8f-8f-49b6 fe90-91-e854 fe92-92-4ca3 fe93-95-4c9f",
     "fe96-96-4c77 fe97-97-4ca2 fe98-9e-4d13 fe9f-9f-4dae fea0-a0-e864 fea1-fe-e468"]

/-- The sequences of four bytes, by runs: the number of the first sequence, and the code point that
it stands for. A run lasts until the next one. -/
def fourByteRuns : List (List Nat) :=
  Unicode.rows
    ["0-80 24-a5 26-a9 2d-b2 32-b8 51-d8 59-e2 5f-eb 60-ee 64-f4 67-f8 68-fb 69-fd 6d-102 7e-114",
     "85-11c 94-12c ac-145 af-149 b3-14e d0-16c 132-1cf 133-1d1 134-1d3 135-1d5 136-1d7 137-1d9",
     "138-1db 139-1dd 155-1fa 1ac-252 1bb-262 220-2c8 221-2cc 22e-2da 2e5-3a2 2e6-3aa 2ed-3c2",
     "2ee-3ca 325-402 333-450 334-452 1ef2-2011 1ef4-2017 1ef5-201a 1ef7-201e 1efe-2027",
     "1f07-2031 1f08-2034 1f09-2036 1f0e-203c 1f7e-20ad 1fd4-2104 1fd5-2106 1fd8-210a 1fe4-2117",
     "1fee-2122 202c-216c 2030-217a 2046-2194 2048-219a 20b6-2209 20bc-2210 20bd-2212 20c0-2216",
     "20c4-221b 20c6-2221 20c8-2224 20c9-2226 20ca-222c 20cc-222f 20d1-2238 20d6-223e 20e0-2249",
     "20e3-224d 20e8-2253 20f5-2262 20f7-2268 20fd-2270 2122-2296 2125-229a 2130-22a6 2149-22c0",
     "219b-2313 22e8-246a 22f2-249c 2356-254c 235a-2574 2367-2590 236a-2596 2374-25a2 2384-25b4",
     "238c-25be 2394-25c8 2397-25cc 2399-25d0 23ab-25e6 23ca-2607 23cc-260a 2402-2641 2403-2643",
     "2c41-2e82 2c43-2e85 2c46-2e89 2c48-2e8d 2c52-2e98 2c61-2ea8 2c63-2eab 2c66-2eaf 2c6a-2eb4",
     "2c6c-2eb8 2c6f-2ebc 2c7d-2ecb 2da2-2ffc 2da6-3004 2da7-3018 2dac-301f 2dae-302a 2dc2-303f",
     "2dc4-3094 2dcb-309f 2dcd-30f7 2dd2-30ff 2dd8-312a 2ece-322a 2ed5-3232 2f46-32a4 3030-3390",
     "303c-339f 303e-33a2 3060-33c5 3069-33cf 306b-33d3 306d-33d6 30de-3448 3109-3474 3233-359f",
     "32a2-360f 32ad-361b 35aa-3919 35ff-396f 365f-39d1 366d-39e0 3700-3a74 37da-3b4f 38f9-3c6f",
     "396a-3ce1 3cdf-4057 3de7-4160 3fbe-4338 4032-43ad 4036-43b2 4061-43de 4159-44d7 42ce-464d",
     "42e2-4662 43a3-4724 43a8-472a 43fa-477d 440a-478e 45c3-4948 45f5-497b 45f7-497e 45fb-4984",
     "45fc-4987 4610-499c 4613-49a0 4629-49b8 48e8-4c78 490f-4ca4 497e-4d1a 4a12-4daf 4a63-9fa6",
     "82bd-e76c 82be-e7c8 82bf-e7e7 82cc-e815 82cd-e819 82d2-e81f 82d9-e827 82dd-e82d 82e1-e833",
     "82e9-e83c 82f0-e844 8300-e856 830e-e865 93d5-f92d 9421-f97a 943c-f996 948d-f9e8 9496-f9f2",
     "94b0-fa10 94b1-fa12 94b2-fa15 94b5-fa19 94bb-fa22 94bc-fa25 94be-fa2a 98c4-fe32 98c5-fe45",
     "98c9-fe53 98ca-fe58 98cb-fe67 98cc-fe6c 9961-ff5f 99e2-ffe6"]

/-- The numbers of the sequences of four bytes end here, as far as runs give their characters. -/
def fourByteCount : Nat := 39420

/-- The added character of two bytes. There is no column 0x7F. -/
def twoByteAddition? (first second : Nat) : Option Char :=
  twoByteRuns.findSome? fun run =>
    match run with
    | [place, last, start] =>
      let column := place % 256
      if place / 256 = first ∧ column ≤ second ∧ second ≤ last ∧ second ≠ 0x7F then
        let skipped := if column < 0x7F ∧ 0x7F < second then 1 else 0
        some (Char.ofNat (start + (second - column) - skipped))
      else none
    | _ => none

/-- The character of two bytes in the latest standard. -/
def gb18030? (first second : Nat) : Option Char :=
  (twoByteAddition? first second).or (gbk? first second)

/-- The character that the runs give to the number of a sequence of four bytes. -/
def fourByteCharacter? (n : Nat) : Option Char :=
  fourByteRuns.foldl
    (fun found run =>
      match run with
      | [start, codePoint] =>
        if start ≤ n then some (Char.ofNat (codePoint + (n - start))) else found
      | _ => found)
    none

/-- The character of four bytes. From a certain first byte on, the sequences are the characters
beyond the first plane in order. -/
def fourBytes? (first second third fourth : Nat) : Option Char :=
  if first < 0x81 ∨ 0xFE < first ∨ third < 0x81 ∨ 0xFE < third ∨ fourth < 0x30 ∨ 0x39 < fourth then
    none
  else
    let rest := (second - 0x30) * 1260 + (third - 0x81) * 10 + (fourth - 0x30)
    if first < 0x85 then
      let n := (first - 0x81) * 12600 + rest
      if n < fourByteCount then fourByteCharacter? n else none
    else if first < 0x90 then none
    else
      let codePoint := 0x10000 + (first - 0x90) * 12600 + rest
      if codePoint ≤ 0x10FFFF then some (Char.ofNat codePoint) else none

/-- The first character in the latest standard. A digit in the second place tells that there are
four bytes. -/
def gb18030Front (first : Nat) (rest : List UInt8) : Front Char :=
  if first < 0x80 then .characters [Char.ofNat first] 0
  else
    match rest with
    | [] => .unfinished
    | second :: rest =>
      if 0x30 ≤ second ∧ second ≤ 0x39 then
        match rest with
        | third :: fourth :: _ =>
          match fourBytes? first second.toNat third.toNat fourth.toNat with
          | some c => .characters [c] 3
          | none => .invalid 0
        | _ => .unfinished
      else
        match gb18030? first second.toNat with
        | some c => .characters [c] 1
        | none => .invalid 0

/-- The first character in HZ, and whether the older standard is on behind it. A tilde and an
opening brace turn it on, and a tilde and a closing brace turn it off. Two tildes are one, and a
tilde at the end of a line joins it to the next one. -/
def hzFront (isOn : Bool) (first : Nat) (rest : List UInt8) : Front Char × Bool :=
  if 0x80 ≤ first then (.invalid 0, isOn)
  else if first = 0x7E then
    match rest with
    | [] => (.unfinished, isOn)
    | second :: _ =>
      match isOn, second.toNat with
      | false, 0x7E => (.characters ['~'] 1, false)
      | false, 0x7B => (.characters [] 1, true)
      | false, 0x0A => (.characters [] 1, false)
      | true, 0x7D => (.characters [] 1, false)
      | _, _ => (.invalid 0, isOn)
  else if isOn then
    match rest with
    | [] => (.unfinished, isOn)
    | second :: _ =>
      let column := second.toNat + 0x80
      match gb2312? (first + 0x80) column with
      | some c => (.characters [c] 1, isOn)
      | none => (.invalid 0, isOn)
  else (.characters [Char.ofNat first] 0, isOn)

end EastAsian

end InstanceIdentity
