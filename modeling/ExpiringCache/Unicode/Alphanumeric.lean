import ExpiringCache.Unicode.Property

/-!
# Letters and numbers

The letters and numbers that names may be made of. They are those of Unicode 17, while properties
are asked for as of Unicode 16; what the later version has more is listed here.
-/

namespace ExpiringCache.Unicode

/-- The letters, and what is used like letters, that Unicode 17 has more than Unicode 16. -/
def laterLetters : RangeTable := .ofLines
  ["88f c5c cdc a7ce-a7cf a7d2 a7d4 a7f1 10940-10959 10ec5-10ec7 10efa-10efb 11b60-11b67",
    "11db0-11ddb 16ea0-16eb8 16ebb-16ed3 16ff2-16ff6 187f8-187ff 18d09-18d1e 18d80-18df2",
    "1e6c0-1e6de 1e6e0-1e6f5 1e6fe-1e6ff 2b73a-2b73f 2cea2-2cead 323b0-33479"]

/-- The numbers that Unicode 17 has more than Unicode 16. -/
def laterNumbers : RangeTable := .ofLines ["11de0-11de9 16ff4-16ff6"]

/-- Whether a character is a letter or used like one. -/
def isAlphabetic (c : Char) : Bool := alphabeticTable.contains c || laterLetters.contains c

/-- The numbers of all scripts. -/
def numberSet : CharSet := .union (categories ["nd", "nl", "no"]) (.table laterNumbers)

/-- Whether a character is a letter or a number. -/
def isAlphanumeric (c : Char) : Bool := isAlphabetic c || numberSet.contains c

end ExpiringCache.Unicode
