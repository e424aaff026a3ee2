import Daybook.Zone.Tables.Shared

/-!
# The clocks of the Pacific

The recurring rules and the histories of the zones of this area, and the list of its zones by name.
-/

namespace Daybook.Zone.Tables

/-! ### Rules -/

/-- The rules of Chatham. -/
def chatham : List Rule :=
  [⟨1974, 1974, 11, .onOrAfter .sun 1, 9900, .standard, 3600⟩,
   ⟨1975, 1975, 2, .last .sun, 9900, .standard, 0⟩,
   ⟨1975, 1988, 10, .last .sun, 9900, .standard, 3600⟩,
   ⟨1976, 1989, 3, .onOrAfter .sun 1, 9900, .standard, 0⟩,
   ⟨1989, 1989, 10, .onOrAfter .sun 8, 9900, .standard, 3600⟩,
   ⟨1990, 2006, 10, .onOrAfter .sun 1, 9900, .standard, 3600⟩,
   ⟨1990, 2007, 3, .onOrAfter .sun 15, 9900, .standard, 0⟩,
   ⟨2007, lastYear, 9, .last .sun, 9900, .standard, 3600⟩,
   ⟨2008, lastYear, 4, .onOrAfter .sun 1, 9900, .standard, 0⟩]

/-- The rules of Cook Islands. -/
def cookIslands : List Rule :=
  [⟨1978, 1978, 11, .on 12, 0, .wall, 1800⟩,
   ⟨1979, 1991, 3, .onOrAfter .sun 1, 0, .wall, 0⟩,
   ⟨1979, 1990, 10, .last .sun, 0, .wall, 1800⟩]

/-- The rules of Fiji. -/
def fiji : List Rule :=
  [⟨1998, 1999, 11, .onOrAfter .sun 1, 7200, .wall, 3600⟩,
   ⟨1999, 2000, 2, .last .sun, 10800, .wall, 0⟩,
   ⟨2009, 2009, 11, .on 29, 7200, .wall, 3600⟩,
   ⟨2010, 2010, 3, .last .sun, 10800, .wall, 0⟩,
   ⟨2010, 2013, 10, .onOrAfter .sun 21, 7200, .wall, 3600⟩,
   ⟨2011, 2011, 3, .onOrAfter .sun 1, 10800, .wall, 0⟩,
   ⟨2012, 2013, 1, .onOrAfter .sun 18, 10800, .wall, 0⟩,
   ⟨2014, 2014, 1, .onOrAfter .sun 18, 7200, .wall, 0⟩,
   ⟨2014, 2018, 11, .onOrAfter .sun 1, 7200, .wall, 3600⟩,
   ⟨2015, 2021, 1, .onOrAfter .sun 12, 10800, .wall, 0⟩,
   ⟨2019, 2019, 11, .onOrAfter .sun 8, 7200, .wall, 3600⟩,
   ⟨2020, 2020, 12, .on 20, 7200, .wall, 3600⟩]

/-- The rules of Guam. -/
def guam : List Rule :=
  [⟨1959, 1959, 6, .on 27, 7200, .wall, 3600⟩,
   ⟨1961, 1961, 1, .on 29, 7200, .wall, 0⟩,
   ⟨1967, 1967, 9, .on 1, 7200, .wall, 3600⟩,
   ⟨1969, 1969, 1, .on 26, 60, .wall, 0⟩,
   ⟨1969, 1969, 6, .on 22, 7200, .wall, 3600⟩,
   ⟨1969, 1969, 8, .on 31, 7200, .wall, 0⟩,
   ⟨1970, 1971, 4, .last .sun, 7200, .wall, 3600⟩,
   ⟨1970, 1971, 9, .onOrAfter .sun 1, 7200, .wall, 0⟩,
   ⟨1973, 1973, 12, .on 16, 7200, .wall, 3600⟩,
   ⟨1974, 1974, 2, .on 24, 7200, .wall, 0⟩,
   ⟨1976, 1976, 5, .on 26, 7200, .wall, 3600⟩,
   ⟨1976, 1976, 8, .on 22, 7260, .wall, 0⟩,
   ⟨1977, 1977, 4, .on 24, 7200, .wall, 3600⟩,
   ⟨1977, 1977, 8, .on 28, 7200, .wall, 0⟩]

/-- The rules of New Caledonia. -/
def newCaledonia : List Rule :=
  [⟨1977, 1978, 12, .onOrAfter .sun 1, 0, .wall, 3600⟩,
   ⟨1978, 1979, 2, .on 27, 0, .wall, 0⟩,
   ⟨1996, 1996, 12, .on 1, 7200, .standard, 3600⟩,
   ⟨1997, 1997, 3, .on 2, 7200, .standard, 0⟩]

/-- The rules of New Zealand. -/
def newZealand : List Rule :=
  [⟨1927, 1927, 11, .on 6, 7200, .wall, 3600⟩,
   ⟨1928, 1928, 3, .on 4, 7200, .wall, 0⟩,
   ⟨1928, 1933, 10, .onOrAfter .sun 8, 7200, .wall, 1800⟩,
   ⟨1929, 1933, 3, .onOrAfter .sun 15, 7200, .wall, 0⟩,
   ⟨1934, 1940, 4, .last .sun, 7200, .wall, 0⟩,
   ⟨1934, 1940, 9, .last .sun, 7200, .wall, 1800⟩,
   ⟨1946, 1946, 1, .on 1, 0, .wall, 0⟩,
   ⟨1974, 1974, 11, .onOrAfter .sun 1, 7200, .standard, 3600⟩,
   ⟨1975, 1975, 2, .last .sun, 7200, .standard, 0⟩,
   ⟨1975, 1988, 10, .last .sun, 7200, .standard, 3600⟩,
   ⟨1976, 1989, 3, .onOrAfter .sun 1, 7200, .standard, 0⟩,
   ⟨1989, 1989, 10, .onOrAfter .sun 8, 7200, .standard, 3600⟩,
   ⟨1990, 2006, 10, .onOrAfter .sun 1, 7200, .standard, 3600⟩,
   ⟨1990, 2007, 3, .onOrAfter .sun 15, 7200, .standard, 0⟩,
   ⟨2007, lastYear, 9, .last .sun, 7200, .standard, 3600⟩,
   ⟨2008, lastYear, 4, .onOrAfter .sun 1, 7200, .standard, 0⟩]

/-- The rules of Samoa. -/
def samoa : List Rule :=
  [⟨2010, 2010, 9, .last .sun, 0, .wall, 3600⟩,
   ⟨2011, 2011, 4, .onOrAfter .sat 1, 14400, .wall, 0⟩,
   ⟨2011, 2011, 9, .last .sat, 10800, .wall, 3600⟩,
   ⟨2012, 2021, 4, .onOrAfter .sun 1, 14400, .wall, 0⟩,
   ⟨2012, 2020, 9, .last .sun, 10800, .wall, 3600⟩]

/-- The rules of Tonga. -/
def tonga : List Rule :=
  [⟨1999, 1999, 10, .on 7, 7200, .standard, 3600⟩,
   ⟨2000, 2000, 3, .on 19, 7200, .standard, 0⟩,
   ⟨2000, 2001, 11, .onOrAfter .sun 1, 7200, .wall, 3600⟩,
   ⟨2001, 2002, 1, .last .sun, 7200, .wall, 0⟩,
   ⟨2016, 2016, 11, .onOrAfter .sun 1, 7200, .wall, 3600⟩,
   ⟨2017, 2017, 1, .onOrAfter .sun 15, 10800, .wall, 0⟩]

/-- The rules of Vanuatu. -/
def vanuatu : List Rule :=
  [⟨1973, 1973, 12, .on 22, 43200, .universal, 3600⟩,
   ⟨1974, 1974, 3, .on 30, 43200, .universal, 0⟩,
   ⟨1983, 1991, 9, .onOrAfter .sat 22, 86400, .wall, 3600⟩,
   ⟨1984, 1991, 3, .onOrAfter .sat 22, 86400, .wall, 0⟩,
   ⟨1992, 1993, 1, .onOrAfter .sat 22, 86400, .wall, 0⟩,
   ⟨1992, 1992, 10, .onOrAfter .sat 22, 86400, .wall, 3600⟩]

/-! ### Histories -/

/-- The history of Pacific/Apia. -/
def pacificApia : List Era :=
  [⟨45184, .fixed 0, some ⟨1892, 7, .on 5, 0, .wall⟩⟩,
   ⟨-41216, .fixed 0, some ⟨1911, 1, .on 1, 0, .wall⟩⟩,
   ⟨-41400, .fixed 0, some ⟨1950, 1, .on 1, 0, .wall⟩⟩,
   ⟨-39600, .recurring samoa, some ⟨2011, 12, .on 29, 86400, .wall⟩⟩,
   ⟨46800, .recurring samoa, none⟩]

/-- The history of Pacific/Auckland. -/
def pacificAuckland : List Era :=
  [⟨41944, .fixed 0, some ⟨1868, 11, .on 2, 0, .wall⟩⟩,
   ⟨41400, .recurring newZealand, some ⟨1946, 1, .on 1, 0, .wall⟩⟩,
   ⟨43200, .recurring newZealand, none⟩]

/-- The history of Pacific/Bougainville. -/
def pacificBougainville : List Era :=
  [⟨37336, .fixed 0, some ⟨1880, 1, .on 1, 0, .wall⟩⟩,
   ⟨35312, .fixed 0, some ⟨1895, 1, .on 1, 0, .wall⟩⟩,
   ⟨36000, .fixed 0, some ⟨1942, 7, .on 1, 0, .wall⟩⟩,
   ⟨32400, .fixed 0, some ⟨1945, 8, .on 21, 0, .wall⟩⟩,
   ⟨36000, .fixed 0, some ⟨2014, 12, .on 28, 7200, .wall⟩⟩,
   ⟨39600, .fixed 0, none⟩]

/-- The history of Pacific/Chatham. -/
def pacificChatham : List Era :=
  [⟨44028, .fixed 0, some ⟨1868, 11, .on 2, 0, .wall⟩⟩,
   ⟨44100, .fixed 0, some ⟨1946, 1, .on 1, 0, .wall⟩⟩,
   ⟨45900, .recurring chatham, none⟩]

/-- The history of Pacific/Easter. -/
def pacificEaster : List Era :=
  [⟨-26248, .fixed 0, some ⟨1890, 1, .on 1, 0, .wall⟩⟩,
   ⟨-26248, .fixed 0, some ⟨1932, 9, .on 1, 0, .wall⟩⟩,
   ⟨-25200, .recurring chile, some ⟨1982, 3, .on 14, 10800, .universal⟩⟩,
   ⟨-21600, .recurring chile, none⟩]

/-- The history of Pacific/Efate. -/
def pacificEfate : List Era :=
  [⟨40396, .fixed 0, some ⟨1912, 1, .on 13, 0, .wall⟩⟩,
   ⟨39600, .recurring vanuatu, none⟩]

/-- The history of Pacific/Fakaofo. -/
def pacificFakaofo : List Era :=
  [⟨-41096, .fixed 0, some ⟨1901, 1, .on 1, 0, .wall⟩⟩,
   ⟨-39600, .fixed 0, some ⟨2011, 12, .on 30, 0, .wall⟩⟩,
   ⟨46800, .fixed 0, none⟩]

/-- The history of Pacific/Fiji. -/
def pacificFiji : List Era :=
  [⟨42944, .fixed 0, some ⟨1915, 10, .on 26, 0, .wall⟩⟩,
   ⟨43200, .recurring fiji, none⟩]

/-- The history of Pacific/Galapagos. -/
def pacificGalapagos : List Era :=
  [⟨-21504, .fixed 0, some ⟨1931, 1, .on 1, 0, .wall⟩⟩,
   ⟨-18000, .fixed 0, some ⟨1986, 1, .on 1, 0, .wall⟩⟩,
   ⟨-21600, .recurring ecuador, none⟩]

/-- The history of Pacific/Gambier. -/
def pacificGambier : List Era :=
  [⟨-32388, .fixed 0, some ⟨1912, 10, .on 1, 0, .wall⟩⟩,
   ⟨-32400, .fixed 0, none⟩]

/-- The history of Pacific/Guadalcanal. -/
def pacificGuadalcanal : List Era :=
  [⟨38388, .fixed 0, some ⟨1912, 10, .on 1, 0, .wall⟩⟩,
   ⟨39600, .fixed 0, none⟩]

/-- The history of Pacific/Guam. -/
def pacificGuam : List Era :=
  [⟨-51660, .fixed 0, some ⟨1844, 12, .on 31, 0, .wall⟩⟩,
   ⟨34740, .fixed 0, some ⟨1901, 1, .on 1, 0, .wall⟩⟩,
   ⟨36000, .fixed 0, some ⟨1941, 12, .on 10, 0, .wall⟩⟩,
   ⟨32400, .fixed 0, some ⟨1944, 7, .on 31, 0, .wall⟩⟩,
   ⟨36000, .recurring guam, some ⟨2000, 12, .on 23, 0, .wall⟩⟩,
   ⟨36000, .fixed 0, none⟩]

/-- The history of Pacific/Honolulu. -/
def pacificHonolulu : List Era :=
  [⟨-37886, .fixed 0, some ⟨1896, 1, .on 13, 43200, .wall⟩⟩,
   ⟨-37800, .fixed 0, some ⟨1933, 4, .on 30, 7200, .wall⟩⟩,
   ⟨-37800, .fixed 3600, some ⟨1933, 5, .on 21, 43200, .wall⟩⟩,
   ⟨-37800, .recurring unitedStates, some ⟨1947, 6, .on 8, 7200, .wall⟩⟩,
   ⟨-36000, .fixed 0, none⟩]

/-- The history of Pacific/Kanton. -/
def pacificKanton : List Era :=
  [⟨0, .fixed 0, some ⟨1937, 8, .on 31, 0, .wall⟩⟩,
   ⟨-43200, .fixed 0, some ⟨1979, 10, .on 1, 0, .wall⟩⟩,
   ⟨-39600, .fixed 0, some ⟨1994, 12, .on 31, 0, .wall⟩⟩,
   ⟨46800, .fixed 0, none⟩]

/-- The history of Pacific/Kiritimati. -/
def pacificKiritimati : List Era :=
  [⟨-37760, .fixed 0, some ⟨1901, 1, .on 1, 0, .wall⟩⟩,
   ⟨-38400, .fixed 0, some ⟨1979, 10, .on 1, 0, .wall⟩⟩,
   ⟨-36000, .fixed 0, some ⟨1994, 12, .on 31, 0, .wall⟩⟩,
   ⟨50400, .fixed 0, none⟩]

/-- The history of Pacific/Kosrae. -/
def pacificKosrae : List Era :=
  [⟨-47284, .fixed 0, some ⟨1844, 12, .on 31, 0, .wall⟩⟩,
   ⟨39116, .fixed 0, some ⟨1901, 1, .on 1, 0, .wall⟩⟩,
   ⟨39600, .fixed 0, some ⟨1914, 10, .on 1, 0, .wall⟩⟩,
   ⟨32400, .fixed 0, some ⟨1919, 2, .on 1, 0, .wall⟩⟩,
   ⟨39600, .fixed 0, some ⟨1937, 1, .on 1, 0, .wall⟩⟩,
   ⟨36000, .fixed 0, some ⟨1941, 4, .on 1, 0, .wall⟩⟩,
   ⟨32400, .fixed 0, some ⟨1945, 8, .on 1, 0, .wall⟩⟩,
   ⟨39600, .fixed 0, some ⟨1969, 10, .on 1, 0, .wall⟩⟩,
   ⟨43200, .fixed 0, some ⟨1999, 1, .on 1, 0, .wall⟩⟩,
   ⟨39600, .fixed 0, none⟩]

/-- The history of Pacific/Kwajalein. -/
def pacificKwajalein : List Era :=
  [⟨40160, .fixed 0, some ⟨1901, 1, .on 1, 0, .wall⟩⟩,
   ⟨39600, .fixed 0, some ⟨1937, 1, .on 1, 0, .wall⟩⟩,
   ⟨36000, .fixed 0, some ⟨1941, 4, .on 1, 0, .wall⟩⟩,
   ⟨32400, .fixed 0, some ⟨1944, 2, .on 6, 0, .wall⟩⟩,
   ⟨39600, .fixed 0, some ⟨1969, 10, .on 1, 0, .wall⟩⟩,
   ⟨-43200, .fixed 0, some ⟨1993, 8, .on 20, 86400, .wall⟩⟩,
   ⟨43200, .fixed 0, none⟩]

/-- The history of Pacific/Marquesas. -/
def pacificMarquesas : List Era :=
  [⟨-33480, .fixed 0, some ⟨1912, 10, .on 1, 0, .wall⟩⟩,
   ⟨-34200, .fixed 0, none⟩]

/-- The history of Pacific/Nauru. -/
def pacificNauru : List Era :=
  [⟨40060, .fixed 0, some ⟨1921, 1, .on 15, 0, .wall⟩⟩,
   ⟨41400, .fixed 0, some ⟨1942, 8, .on 29, 0, .wall⟩⟩,
   ⟨32400, .fixed 0, some ⟨1945, 9, .on 8, 0, .wall⟩⟩,
   ⟨41400, .fixed 0, some ⟨1979, 2, .on 10, 7200, .wall⟩⟩,
   ⟨43200, .fixed 0, none⟩]

/-- The history of Pacific/Niue. -/
def pacificNiue : List Era :=
  [⟨-40780, .fixed 0, some ⟨1952, 10, .on 16, 0, .wall⟩⟩,
   ⟨-40800, .fixed 0, some ⟨1964, 7, .on 1, 0, .wall⟩⟩,
   ⟨-39600, .fixed 0, none⟩]

/-- The history of Pacific/Norfolk. -/
def pacificNorfolk : List Era :=
  [⟨40312, .fixed 0, some ⟨1901, 1, .on 1, 0, .wall⟩⟩,
   ⟨40320, .fixed 0, some ⟨1951, 1, .on 1, 0, .wall⟩⟩,
   ⟨41400, .fixed 0, some ⟨1974, 10, .on 27, 7200, .standard⟩⟩,
   ⟨41400, .fixed 3600, some ⟨1975, 3, .on 2, 7200, .standard⟩⟩,
   ⟨41400, .fixed 0, some ⟨2015, 10, .on 4, 7200, .standard⟩⟩,
   ⟨39600, .fixed 0, some ⟨2019, 7, .on 1, 0, .wall⟩⟩,
   ⟨39600, .recurring newSouthWales, none⟩]

/-- The history of Pacific/Noumea. -/
def pacificNoumea : List Era :=
  [⟨39948, .fixed 0, some ⟨1912, 1, .on 13, 0, .wall⟩⟩,
   ⟨39600, .recurring newCaledonia, none⟩]

/-- The history of Pacific/Pago_Pago. -/
def pacificPagoPago : List Era :=
  [⟨45432, .fixed 0, some ⟨1892, 7, .on 5, 0, .wall⟩⟩,
   ⟨-40968, .fixed 0, some ⟨1911, 1, .on 1, 0, .wall⟩⟩,
   ⟨-39600, .fixed 0, none⟩]

/-- The history of Pacific/Palau. -/
def pacificPalau : List Era :=
  [⟨-54124, .fixed 0, some ⟨1844, 12, .on 31, 0, .wall⟩⟩,
   ⟨32276, .fixed 0, some ⟨1901, 1, .on 1, 0, .wall⟩⟩,
   ⟨32400, .fixed 0, none⟩]

/-- The history of Pacific/Pitcairn. -/
def pacificPitcairn : List Era :=
  [⟨-31220, .fixed 0, some ⟨1901, 1, .on 1, 0, .wall⟩⟩,
   ⟨-30600, .fixed 0, some ⟨1998, 4, .on 27, 0, .wall⟩⟩,
   ⟨-28800, .fixed 0, none⟩]

/-- The history of Pacific/Port_Moresby. -/
def pacificPortMoresby : List Era :=
  [⟨35320, .fixed 0, some ⟨1880, 1, .on 1, 0, .wall⟩⟩,
   ⟨35312, .fixed 0, some ⟨1895, 1, .on 1, 0, .wall⟩⟩,
   ⟨36000, .fixed 0, none⟩]

/-- The history of Pacific/Rarotonga. -/
def pacificRarotonga : List Era :=
  [⟨48056, .fixed 0, some ⟨1899, 12, .on 26, 0, .wall⟩⟩,
   ⟨-38344, .fixed 0, some ⟨1952, 10, .on 16, 0, .wall⟩⟩,
   ⟨-37800, .fixed 0, some ⟨1978, 11, .on 12, 0, .wall⟩⟩,
   ⟨-36000, .recurring cookIslands, none⟩]

/-- The history of Pacific/Tahiti. -/
def pacificTahiti : List Era :=
  [⟨-35896, .fixed 0, some ⟨1912, 10, .on 1, 0, .wall⟩⟩,
   ⟨-36000, .fixed 0, none⟩]

/-- The history of Pacific/Tarawa. -/
def pacificTarawa : List Era :=
  [⟨41524, .fixed 0, some ⟨1901, 1, .on 1, 0, .wall⟩⟩,
   ⟨43200, .fixed 0, none⟩]

/-- The history of Pacific/Tongatapu. -/
def pacificTongatapu : List Era :=
  [⟨44352, .fixed 0, some ⟨1945, 9, .on 10, 0, .wall⟩⟩,
   ⟨44400, .fixed 0, some ⟨1961, 1, .on 1, 0, .wall⟩⟩,
   ⟨46800, .fixed 0, some ⟨1999, 1, .on 1, 0, .wall⟩⟩,
   ⟨46800, .recurring tonga, none⟩]

/-- The zones of the Pacific by name. -/
def pacificZones : List (String × List Era) :=
  [("Pacific/Apia", pacificApia),
   ("Pacific/Auckland", pacificAuckland),
   ("Pacific/Bougainville", pacificBougainville),
   ("Pacific/Chatham", pacificChatham),
   ("Pacific/Easter", pacificEaster),
   ("Pacific/Efate", pacificEfate),
   ("Pacific/Fakaofo", pacificFakaofo),
   ("Pacific/Fiji", pacificFiji),
   ("Pacific/Galapagos", pacificGalapagos),
   ("Pacific/Gambier", pacificGambier),
   ("Pacific/Guadalcanal", pacificGuadalcanal),
   ("Pacific/Guam", pacificGuam),
   ("Pacific/Honolulu", pacificHonolulu),
   ("Pacific/Kanton", pacificKanton),
   ("Pacific/Kiritimati", pacificKiritimati),
   ("Pacific/Kosrae", pacificKosrae),
   ("Pacific/Kwajalein", pacificKwajalein),
   ("Pacific/Marquesas", pacificMarquesas),
   ("Pacific/Nauru", pacificNauru),
   ("Pacific/Niue", pacificNiue),
   ("Pacific/Norfolk", pacificNorfolk),
   ("Pacific/Noumea", pacificNoumea),
   ("Pacific/Pago_Pago", pacificPagoPago),
   ("Pacific/Palau", pacificPalau),
   ("Pacific/Pitcairn", pacificPitcairn),
   ("Pacific/Port_Moresby", pacificPortMoresby),
   ("Pacific/Rarotonga", pacificRarotonga),
   ("Pacific/Tahiti", pacificTahiti),
   ("Pacific/Tarawa", pacificTarawa),
   ("Pacific/Tongatapu", pacificTongatapu)]

end Daybook.Zone.Tables
