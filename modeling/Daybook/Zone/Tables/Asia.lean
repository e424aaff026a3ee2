import Daybook.Zone.Tables.Shared

/-!
# The clocks of Asia

The recurring rules and the histories of the zones of this area, and the list of its zones by name.
-/

namespace Daybook.Zone.Tables

/-! ### Rules -/

/-- The rules of Armenia. -/
def armenia : List Rule :=
  [⟨2011, 2011, 3, .last .sun, 7200, .standard, 3600⟩,
   ⟨2011, 2011, 10, .last .sun, 7200, .standard, 0⟩]

/-- The rules of Azerbaijan. -/
def azerbaijan : List Rule :=
  [⟨1997, 2015, 3, .last .sun, 14400, .wall, 3600⟩,
   ⟨1997, 2015, 10, .last .sun, 18000, .wall, 0⟩]

/-- The rules of China. -/
def china : List Rule :=
  [⟨1986, 1986, 5, .on 4, 7200, .wall, 3600⟩,
   ⟨1986, 1991, 9, .onOrAfter .sun 11, 7200, .wall, 0⟩,
   ⟨1987, 1991, 4, .onOrAfter .sun 11, 7200, .wall, 3600⟩]

/-- The rules of Cyprus. -/
def cyprus : List Rule :=
  [⟨1975, 1975, 4, .on 13, 0, .wall, 3600⟩,
   ⟨1975, 1975, 10, .on 12, 0, .wall, 0⟩,
   ⟨1976, 1976, 5, .on 15, 0, .wall, 3600⟩,
   ⟨1976, 1976, 10, .on 11, 0, .wall, 0⟩,
   ⟨1977, 1980, 4, .onOrAfter .sun 1, 0, .wall, 3600⟩,
   ⟨1977, 1977, 9, .on 25, 0, .wall, 0⟩,
   ⟨1978, 1978, 10, .on 2, 0, .wall, 0⟩,
   ⟨1979, 1997, 9, .last .sun, 0, .wall, 0⟩,
   ⟨1981, 1998, 3, .last .sun, 0, .wall, 3600⟩]

/-- The rules of Dhaka. -/
def dhaka : List Rule :=
  [⟨2009, 2009, 6, .on 19, 82800, .wall, 3600⟩,
   ⟨2009, 2009, 12, .on 31, 86400, .wall, 0⟩]

/-- The rules of Hong Kong. -/
def hongKong : List Rule :=
  [⟨1946, 1946, 4, .on 21, 0, .wall, 3600⟩,
   ⟨1946, 1946, 12, .on 1, 12600, .standard, 0⟩,
   ⟨1947, 1947, 4, .on 13, 12600, .standard, 3600⟩,
   ⟨1947, 1947, 11, .on 30, 12600, .standard, 0⟩,
   ⟨1948, 1948, 5, .on 2, 12600, .standard, 3600⟩,
   ⟨1948, 1952, 10, .onOrAfter .sun 28, 12600, .standard, 0⟩,
   ⟨1949, 1953, 4, .onOrAfter .sun 1, 12600, .wall, 3600⟩,
   ⟨1953, 1964, 10, .onOrAfter .sun 31, 12600, .wall, 0⟩,
   ⟨1954, 1964, 3, .onOrAfter .sun 18, 12600, .wall, 3600⟩,
   ⟨1965, 1976, 4, .onOrAfter .sun 16, 12600, .wall, 3600⟩,
   ⟨1965, 1976, 10, .onOrAfter .sun 16, 12600, .wall, 0⟩,
   ⟨1973, 1973, 12, .on 30, 12600, .wall, 3600⟩,
   ⟨1979, 1979, 5, .on 13, 12600, .wall, 3600⟩,
   ⟨1979, 1979, 10, .on 21, 12600, .wall, 0⟩]

/-- The rules of Iran. -/
def iran : List Rule :=
  [⟨1910, 1910, 1, .on 1, 0, .wall, 0⟩,
   ⟨1977, 1977, 3, .on 21, 82800, .wall, 3600⟩,
   ⟨1977, 1977, 10, .on 20, 86400, .wall, 0⟩,
   ⟨1978, 1978, 3, .on 24, 86400, .wall, 3600⟩,
   ⟨1978, 1978, 8, .on 5, 3600, .wall, 0⟩,
   ⟨1979, 1979, 5, .on 26, 86400, .wall, 3600⟩,
   ⟨1979, 1979, 9, .on 18, 86400, .wall, 0⟩,
   ⟨1980, 1980, 3, .on 20, 86400, .wall, 3600⟩,
   ⟨1980, 1980, 9, .on 22, 86400, .wall, 0⟩,
   ⟨1991, 1991, 5, .on 2, 86400, .wall, 3600⟩,
   ⟨1992, 1995, 3, .on 21, 86400, .wall, 3600⟩,
   ⟨1991, 1995, 9, .on 21, 86400, .wall, 0⟩,
   ⟨1996, 1996, 3, .on 20, 86400, .wall, 3600⟩,
   ⟨1996, 1996, 9, .on 20, 86400, .wall, 0⟩,
   ⟨1997, 1999, 3, .on 21, 86400, .wall, 3600⟩,
   ⟨1997, 1999, 9, .on 21, 86400, .wall, 0⟩,
   ⟨2000, 2000, 3, .on 20, 86400, .wall, 3600⟩,
   ⟨2000, 2000, 9, .on 20, 86400, .wall, 0⟩,
   ⟨2001, 2003, 3, .on 21, 86400, .wall, 3600⟩,
   ⟨2001, 2003, 9, .on 21, 86400, .wall, 0⟩,
   ⟨2004, 2004, 3, .on 20, 86400, .wall, 3600⟩,
   ⟨2004, 2004, 9, .on 20, 86400, .wall, 0⟩,
   ⟨2005, 2005, 3, .on 21, 86400, .wall, 3600⟩,
   ⟨2005, 2005, 9, .on 21, 86400, .wall, 0⟩,
   ⟨2008, 2008, 3, .on 20, 86400, .wall, 3600⟩,
   ⟨2008, 2008, 9, .on 20, 86400, .wall, 0⟩,
   ⟨2009, 2011, 3, .on 21, 86400, .wall, 3600⟩,
   ⟨2009, 2011, 9, .on 21, 86400, .wall, 0⟩,
   ⟨2012, 2012, 3, .on 20, 86400, .wall, 3600⟩,
   ⟨2012, 2012, 9, .on 20, 86400, .wall, 0⟩,
   ⟨2013, 2015, 3, .on 21, 86400, .wall, 3600⟩,
   ⟨2013, 2015, 9, .on 21, 86400, .wall, 0⟩,
   ⟨2016, 2016, 3, .on 20, 86400, .wall, 3600⟩,
   ⟨2016, 2016, 9, .on 20, 86400, .wall, 0⟩,
   ⟨2017, 2019, 3, .on 21, 86400, .wall, 3600⟩,
   ⟨2017, 2019, 9, .on 21, 86400, .wall, 0⟩,
   ⟨2020, 2020, 3, .on 20, 86400, .wall, 3600⟩,
   ⟨2020, 2020, 9, .on 20, 86400, .wall, 0⟩,
   ⟨2021, 2022, 3, .on 21, 86400, .wall, 3600⟩,
   ⟨2021, 2022, 9, .on 21, 86400, .wall, 0⟩]

/-- The rules of Iraq. -/
def iraq : List Rule :=
  [⟨1982, 1982, 5, .on 1, 0, .wall, 3600⟩,
   ⟨1982, 1984, 10, .on 1, 0, .wall, 0⟩,
   ⟨1983, 1983, 3, .on 31, 0, .wall, 3600⟩,
   ⟨1984, 1985, 4, .on 1, 0, .wall, 3600⟩,
   ⟨1985, 1990, 9, .last .sun, 3600, .standard, 0⟩,
   ⟨1986, 1990, 3, .last .sun, 3600, .standard, 3600⟩,
   ⟨1991, 2007, 4, .on 1, 10800, .standard, 3600⟩,
   ⟨1991, 2007, 10, .on 1, 10800, .standard, 0⟩]

/-- The rules of Japan. -/
def japan : List Rule :=
  [⟨1948, 1948, 5, .onOrAfter .sat 1, 86400, .wall, 3600⟩,
   ⟨1948, 1951, 9, .onOrAfter .sun 9, 3600, .wall, 0⟩,
   ⟨1949, 1949, 4, .onOrAfter .sat 1, 86400, .wall, 3600⟩,
   ⟨1950, 1951, 5, .onOrAfter .sat 1, 86400, .wall, 3600⟩]

/-- The rules of Jordan. -/
def jordan : List Rule :=
  [⟨1973, 1973, 6, .on 6, 0, .wall, 3600⟩,
   ⟨1973, 1975, 10, .on 1, 0, .wall, 0⟩,
   ⟨1974, 1977, 5, .on 1, 0, .wall, 3600⟩,
   ⟨1976, 1976, 11, .on 1, 0, .wall, 0⟩,
   ⟨1977, 1977, 10, .on 1, 0, .wall, 0⟩,
   ⟨1978, 1978, 4, .on 30, 0, .wall, 3600⟩,
   ⟨1978, 1978, 9, .on 30, 0, .wall, 0⟩,
   ⟨1985, 1985, 4, .on 1, 0, .wall, 3600⟩,
   ⟨1985, 1985, 10, .on 1, 0, .wall, 0⟩,
   ⟨1986, 1988, 4, .onOrAfter .fri 1, 0, .wall, 3600⟩,
   ⟨1986, 1990, 10, .onOrAfter .fri 1, 0, .wall, 0⟩,
   ⟨1989, 1989, 5, .on 8, 0, .wall, 3600⟩,
   ⟨1990, 1990, 4, .on 27, 0, .wall, 3600⟩,
   ⟨1991, 1991, 4, .on 17, 0, .wall, 3600⟩,
   ⟨1991, 1991, 9, .on 27, 0, .wall, 0⟩,
   ⟨1992, 1992, 4, .on 10, 0, .wall, 3600⟩,
   ⟨1992, 1993, 10, .onOrAfter .fri 1, 0, .wall, 0⟩,
   ⟨1993, 1998, 4, .onOrAfter .fri 1, 0, .wall, 3600⟩,
   ⟨1994, 1994, 9, .onOrAfter .fri 15, 0, .wall, 0⟩,
   ⟨1995, 1998, 9, .onOrAfter .fri 15, 0, .standard, 0⟩,
   ⟨1999, 1999, 7, .on 1, 0, .standard, 3600⟩,
   ⟨1999, 2002, 9, .last .fri, 0, .standard, 0⟩,
   ⟨2000, 2001, 3, .last .thu, 0, .standard, 3600⟩,
   ⟨2002, 2012, 3, .last .thu, 86400, .wall, 3600⟩,
   ⟨2003, 2003, 10, .on 24, 0, .standard, 0⟩,
   ⟨2004, 2004, 10, .on 15, 0, .standard, 0⟩,
   ⟨2005, 2005, 9, .last .fri, 0, .standard, 0⟩,
   ⟨2006, 2011, 10, .last .fri, 0, .standard, 0⟩,
   ⟨2013, 2013, 12, .on 20, 0, .wall, 0⟩,
   ⟨2014, 2021, 3, .last .thu, 86400, .wall, 3600⟩,
   ⟨2014, 2022, 10, .last .fri, 0, .standard, 0⟩,
   ⟨2022, 2022, 2, .last .thu, 86400, .wall, 3600⟩]

/-- The rules of Korea. -/
def korea : List Rule :=
  [⟨1948, 1948, 6, .on 1, 0, .wall, 3600⟩,
   ⟨1948, 1948, 9, .on 12, 86400, .wall, 0⟩,
   ⟨1949, 1949, 4, .on 3, 0, .wall, 3600⟩,
   ⟨1949, 1951, 9, .onOrAfter .sat 7, 86400, .wall, 0⟩,
   ⟨1950, 1950, 4, .on 1, 0, .wall, 3600⟩,
   ⟨1951, 1951, 5, .on 6, 0, .wall, 3600⟩,
   ⟨1955, 1955, 5, .on 5, 0, .wall, 3600⟩,
   ⟨1955, 1955, 9, .on 8, 86400, .wall, 0⟩,
   ⟨1956, 1956, 5, .on 20, 0, .wall, 3600⟩,
   ⟨1956, 1956, 9, .on 29, 86400, .wall, 0⟩,
   ⟨1957, 1960, 5, .onOrAfter .sun 1, 0, .wall, 3600⟩,
   ⟨1957, 1960, 9, .onOrAfter .sat 17, 86400, .wall, 0⟩,
   ⟨1987, 1988, 5, .onOrAfter .sun 8, 7200, .wall, 3600⟩,
   ⟨1987, 1988, 10, .onOrAfter .sun 8, 10800, .wall, 0⟩]

/-- The rules of Kyrgyzstan. -/
def kyrgyzstan : List Rule :=
  [⟨1992, 1996, 4, .onOrAfter .sun 7, 0, .standard, 3600⟩,
   ⟨1992, 1996, 9, .last .sun, 0, .wall, 0⟩,
   ⟨1997, 2005, 3, .last .sun, 9000, .wall, 3600⟩,
   ⟨1997, 2004, 10, .last .sun, 9000, .wall, 0⟩]

/-- The rules of Lebanon. -/
def lebanon : List Rule :=
  [⟨1920, 1920, 3, .on 28, 0, .wall, 3600⟩,
   ⟨1920, 1920, 10, .on 25, 0, .wall, 0⟩,
   ⟨1921, 1921, 4, .on 3, 0, .wall, 3600⟩,
   ⟨1921, 1921, 10, .on 3, 0, .wall, 0⟩,
   ⟨1922, 1922, 3, .on 26, 0, .wall, 3600⟩,
   ⟨1922, 1922, 10, .on 8, 0, .wall, 0⟩,
   ⟨1923, 1923, 4, .on 22, 0, .wall, 3600⟩,
   ⟨1923, 1923, 9, .on 16, 0, .wall, 0⟩,
   ⟨1957, 1961, 5, .on 1, 0, .wall, 3600⟩,
   ⟨1957, 1961, 10, .on 1, 0, .wall, 0⟩,
   ⟨1972, 1972, 6, .on 22, 0, .wall, 3600⟩,
   ⟨1972, 1977, 10, .on 1, 0, .wall, 0⟩,
   ⟨1973, 1977, 5, .on 1, 0, .wall, 3600⟩,
   ⟨1978, 1978, 4, .on 30, 0, .wall, 3600⟩,
   ⟨1978, 1978, 9, .on 30, 0, .wall, 0⟩,
   ⟨1984, 1987, 5, .on 1, 0, .wall, 3600⟩,
   ⟨1984, 1991, 10, .on 16, 0, .wall, 0⟩,
   ⟨1988, 1988, 6, .on 1, 0, .wall, 3600⟩,
   ⟨1989, 1989, 5, .on 10, 0, .wall, 3600⟩,
   ⟨1990, 1992, 5, .on 1, 0, .wall, 3600⟩,
   ⟨1992, 1992, 10, .on 4, 0, .wall, 0⟩,
   ⟨1993, lastYear, 3, .last .sun, 0, .wall, 3600⟩,
   ⟨1993, 1998, 9, .last .sun, 0, .wall, 0⟩,
   ⟨1999, lastYear, 10, .last .sun, 0, .wall, 0⟩]

/-- The rules of Macau. -/
def macau : List Rule :=
  [⟨1942, 1943, 4, .on 30, 82800, .wall, 3600⟩,
   ⟨1942, 1942, 11, .on 17, 82800, .wall, 0⟩,
   ⟨1943, 1943, 9, .on 30, 82800, .wall, 0⟩,
   ⟨1946, 1946, 4, .on 30, 82800, .standard, 3600⟩,
   ⟨1946, 1946, 9, .on 30, 82800, .standard, 0⟩,
   ⟨1947, 1947, 4, .on 19, 82800, .standard, 3600⟩,
   ⟨1947, 1947, 11, .on 30, 82800, .standard, 0⟩,
   ⟨1948, 1948, 5, .on 2, 82800, .standard, 3600⟩,
   ⟨1948, 1948, 10, .on 31, 82800, .standard, 0⟩,
   ⟨1949, 1950, 4, .onOrAfter .sat 1, 82800, .standard, 3600⟩,
   ⟨1949, 1950, 10, .last .sat, 82800, .standard, 0⟩,
   ⟨1951, 1951, 3, .on 31, 82800, .standard, 3600⟩,
   ⟨1951, 1951, 10, .on 28, 82800, .standard, 0⟩,
   ⟨1952, 1953, 4, .onOrAfter .sat 1, 82800, .standard, 3600⟩,
   ⟨1952, 1952, 11, .on 1, 82800, .standard, 0⟩,
   ⟨1953, 1954, 10, .last .sat, 82800, .standard, 0⟩,
   ⟨1954, 1956, 3, .onOrAfter .sat 17, 82800, .standard, 3600⟩,
   ⟨1955, 1955, 11, .on 5, 82800, .standard, 0⟩,
   ⟨1956, 1964, 11, .onOrAfter .sun 1, 12600, .wall, 0⟩,
   ⟨1957, 1964, 3, .onOrAfter .sun 18, 12600, .wall, 3600⟩,
   ⟨1965, 1973, 4, .onOrAfter .sun 16, 12600, .wall, 3600⟩,
   ⟨1965, 1966, 10, .onOrAfter .sun 16, 9000, .wall, 0⟩,
   ⟨1967, 1976, 10, .onOrAfter .sun 16, 12600, .wall, 0⟩,
   ⟨1973, 1973, 12, .on 30, 12600, .wall, 3600⟩,
   ⟨1975, 1976, 4, .onOrAfter .sun 16, 12600, .wall, 3600⟩,
   ⟨1979, 1979, 5, .on 13, 12600, .wall, 3600⟩,
   ⟨1979, 1979, 10, .onOrAfter .sun 16, 12600, .wall, 0⟩]

/-- The rules of Mongolia. -/
def mongolia : List Rule :=
  [⟨1983, 1984, 4, .on 1, 0, .wall, 3600⟩,
   ⟨1983, 1983, 10, .on 1, 0, .wall, 0⟩,
   ⟨1985, 1998, 3, .last .sun, 0, .wall, 3600⟩,
   ⟨1984, 1998, 9, .last .sun, 0, .wall, 0⟩,
   ⟨2001, 2001, 4, .last .sat, 7200, .wall, 3600⟩,
   ⟨2001, 2006, 9, .last .sat, 7200, .wall, 0⟩,
   ⟨2002, 2006, 3, .last .sat, 7200, .wall, 3600⟩,
   ⟨2015, 2016, 3, .last .sat, 7200, .wall, 3600⟩,
   ⟨2015, 2016, 9, .last .sat, 0, .wall, 0⟩]

/-- The rules of North Borneo. -/
def northBorneo : List Rule :=
  [⟨1935, 1941, 9, .on 14, 0, .wall, 1200⟩,
   ⟨1935, 1941, 12, .on 14, 0, .wall, 0⟩]

/-- The rules of Pakistan. -/
def pakistan : List Rule :=
  [⟨2002, 2002, 4, .onOrAfter .sun 2, 0, .wall, 3600⟩,
   ⟨2002, 2002, 10, .onOrAfter .sun 2, 0, .wall, 0⟩,
   ⟨2008, 2008, 6, .on 1, 0, .wall, 3600⟩,
   ⟨2008, 2009, 11, .on 1, 0, .wall, 0⟩,
   ⟨2009, 2009, 4, .on 15, 0, .wall, 3600⟩]

/-- The rules of Palestine. -/
def palestine : List Rule :=
  [⟨1999, 2005, 4, .onOrAfter .fri 15, 0, .wall, 3600⟩,
   ⟨1999, 2003, 10, .onOrAfter .fri 15, 0, .wall, 0⟩,
   ⟨2004, 2004, 10, .on 1, 3600, .wall, 0⟩,
   ⟨2005, 2005, 10, .on 4, 7200, .wall, 0⟩,
   ⟨2006, 2007, 4, .on 1, 0, .wall, 3600⟩,
   ⟨2006, 2006, 9, .on 22, 0, .wall, 0⟩,
   ⟨2007, 2007, 9, .on 13, 7200, .wall, 0⟩,
   ⟨2008, 2009, 3, .last .fri, 0, .wall, 3600⟩,
   ⟨2008, 2008, 9, .on 1, 0, .wall, 0⟩,
   ⟨2009, 2009, 9, .on 4, 3600, .wall, 0⟩,
   ⟨2010, 2010, 3, .on 26, 0, .wall, 3600⟩,
   ⟨2010, 2010, 8, .on 11, 0, .wall, 0⟩,
   ⟨2011, 2011, 4, .on 1, 60, .wall, 3600⟩,
   ⟨2011, 2011, 8, .on 1, 0, .wall, 0⟩,
   ⟨2011, 2011, 8, .on 30, 0, .wall, 3600⟩,
   ⟨2011, 2011, 9, .on 30, 0, .wall, 0⟩,
   ⟨2012, 2014, 3, .last .thu, 86400, .wall, 3600⟩,
   ⟨2012, 2012, 9, .on 21, 3600, .wall, 0⟩,
   ⟨2013, 2013, 9, .on 27, 0, .wall, 0⟩,
   ⟨2014, 2014, 10, .on 24, 0, .wall, 0⟩,
   ⟨2015, 2015, 3, .on 28, 0, .wall, 3600⟩,
   ⟨2015, 2015, 10, .on 23, 3600, .wall, 0⟩,
   ⟨2016, 2018, 3, .onOrBefore .sat 30, 3600, .wall, 3600⟩,
   ⟨2016, 2018, 10, .onOrBefore .sat 30, 3600, .wall, 0⟩,
   ⟨2019, 2019, 3, .on 29, 0, .wall, 3600⟩,
   ⟨2019, 2019, 10, .onOrBefore .sat 30, 0, .wall, 0⟩,
   ⟨2020, 2021, 3, .onOrBefore .sat 30, 0, .wall, 3600⟩,
   ⟨2020, 2020, 10, .on 24, 3600, .wall, 0⟩,
   ⟨2021, 2021, 10, .on 29, 3600, .wall, 0⟩,
   ⟨2022, 2022, 3, .on 27, 0, .wall, 3600⟩,
   ⟨2022, 2035, 10, .onOrBefore .sat 30, 7200, .wall, 0⟩,
   ⟨2023, 2023, 4, .on 29, 7200, .wall, 3600⟩,
   ⟨2024, 2024, 4, .on 20, 7200, .wall, 3600⟩,
   ⟨2025, 2025, 4, .on 12, 7200, .wall, 3600⟩,
   ⟨2026, 2054, 3, .onOrBefore .sat 30, 7200, .wall, 3600⟩,
   ⟨2036, 2036, 10, .on 18, 7200, .wall, 0⟩,
   ⟨2037, 2037, 10, .on 10, 7200, .wall, 0⟩,
   ⟨2038, 2038, 9, .on 25, 7200, .wall, 0⟩,
   ⟨2039, 2039, 9, .on 17, 7200, .wall, 0⟩,
   ⟨2040, 2040, 9, .on 1, 7200, .wall, 0⟩,
   ⟨2040, 2040, 10, .on 20, 7200, .wall, 3600⟩,
   ⟨2040, 2067, 10, .onOrBefore .sat 30, 7200, .wall, 0⟩,
   ⟨2041, 2041, 8, .on 24, 7200, .wall, 0⟩,
   ⟨2041, 2041, 10, .on 5, 7200, .wall, 3600⟩,
   ⟨2042, 2042, 8, .on 16, 7200, .wall, 0⟩,
   ⟨2042, 2042, 9, .on 27, 7200, .wall, 3600⟩,
   ⟨2043, 2043, 8, .on 1, 7200, .wall, 0⟩,
   ⟨2043, 2043, 9, .on 19, 7200, .wall, 3600⟩,
   ⟨2044, 2044, 7, .on 23, 7200, .wall, 0⟩,
   ⟨2044, 2044, 9, .on 3, 7200, .wall, 3600⟩,
   ⟨2045, 2045, 7, .on 15, 7200, .wall, 0⟩,
   ⟨2045, 2045, 8, .on 26, 7200, .wall, 3600⟩,
   ⟨2046, 2046, 6, .on 30, 7200, .wall, 0⟩,
   ⟨2046, 2046, 8, .on 18, 7200, .wall, 3600⟩,
   ⟨2047, 2047, 6, .on 22, 7200, .wall, 0⟩,
   ⟨2047, 2047, 8, .on 3, 7200, .wall, 3600⟩,
   ⟨2048, 2048, 6, .on 6, 7200, .wall, 0⟩,
   ⟨2048, 2048, 7, .on 25, 7200, .wall, 3600⟩,
   ⟨2049, 2049, 5, .on 29, 7200, .wall, 0⟩,
   ⟨2049, 2049, 7, .on 10, 7200, .wall, 3600⟩,
   ⟨2050, 2050, 5, .on 21, 7200, .wall, 0⟩,
   ⟨2050, 2050, 7, .on 2, 7200, .wall, 3600⟩,
   ⟨2051, 2051, 5, .on 6, 7200, .wall, 0⟩,
   ⟨2051, 2051, 6, .on 24, 7200, .wall, 3600⟩,
   ⟨2052, 2052, 4, .on 27, 7200, .wall, 0⟩,
   ⟨2052, 2052, 6, .on 8, 7200, .wall, 3600⟩,
   ⟨2053, 2053, 4, .on 12, 7200, .wall, 0⟩,
   ⟨2053, 2053, 5, .on 31, 7200, .wall, 3600⟩,
   ⟨2054, 2054, 4, .on 4, 7200, .wall, 0⟩,
   ⟨2054, 2054, 5, .on 23, 7200, .wall, 3600⟩,
   ⟨2055, 2055, 5, .on 8, 7200, .wall, 3600⟩,
   ⟨2056, 2056, 4, .on 29, 7200, .wall, 3600⟩,
   ⟨2057, 2057, 4, .on 14, 7200, .wall, 3600⟩,
   ⟨2058, 2058, 4, .on 6, 7200, .wall, 3600⟩,
   ⟨2059, lastYear, 3, .onOrBefore .sat 30, 7200, .wall, 3600⟩,
   ⟨2068, 2068, 10, .on 20, 7200, .wall, 0⟩,
   ⟨2069, 2069, 10, .on 12, 7200, .wall, 0⟩,
   ⟨2070, 2070, 10, .on 4, 7200, .wall, 0⟩,
   ⟨2071, 2071, 9, .on 19, 7200, .wall, 0⟩,
   ⟨2072, 2072, 9, .on 10, 7200, .wall, 0⟩,
   ⟨2072, 2072, 10, .on 22, 7200, .wall, 3600⟩,
   ⟨2072, lastYear, 10, .onOrBefore .sat 30, 7200, .wall, 0⟩,
   ⟨2073, 2073, 9, .on 2, 7200, .wall, 0⟩,
   ⟨2073, 2073, 10, .on 14, 7200, .wall, 3600⟩,
   ⟨2074, 2074, 8, .on 18, 7200, .wall, 0⟩,
   ⟨2074, 2074, 10, .on 6, 7200, .wall, 3600⟩,
   ⟨2075, 2075, 8, .on 10, 7200, .wall, 0⟩,
   ⟨2075, 2075, 9, .on 21, 7200, .wall, 3600⟩,
   ⟨2076, 2076, 7, .on 25, 7200, .wall, 0⟩,
   ⟨2076, 2076, 9, .on 12, 7200, .wall, 3600⟩,
   ⟨2077, 2077, 7, .on 17, 7200, .wall, 0⟩,
   ⟨2077, 2077, 9, .on 4, 7200, .wall, 3600⟩,
   ⟨2078, 2078, 7, .on 9, 7200, .wall, 0⟩,
   ⟨2078, 2078, 8, .on 20, 7200, .wall, 3600⟩,
   ⟨2079, 2079, 6, .on 24, 7200, .wall, 0⟩,
   ⟨2079, 2079, 8, .on 12, 7200, .wall, 3600⟩,
   ⟨2080, 2080, 6, .on 15, 7200, .wall, 0⟩,
   ⟨2080, 2080, 7, .on 27, 7200, .wall, 3600⟩,
   ⟨2081, 2081, 6, .on 7, 7200, .wall, 0⟩,
   ⟨2081, 2081, 7, .on 19, 7200, .wall, 3600⟩,
   ⟨2082, 2082, 5, .on 23, 7200, .wall, 0⟩,
   ⟨2082, 2082, 7, .on 11, 7200, .wall, 3600⟩,
   ⟨2083, 2083, 5, .on 15, 7200, .wall, 0⟩,
   ⟨2083, 2083, 6, .on 26, 7200, .wall, 3600⟩,
   ⟨2084, 2084, 4, .on 29, 7200, .wall, 0⟩,
   ⟨2084, 2084, 6, .on 17, 7200, .wall, 3600⟩,
   ⟨2085, 2085, 4, .on 21, 7200, .wall, 0⟩,
   ⟨2085, 2085, 6, .on 9, 7200, .wall, 3600⟩,
   ⟨2086, 2086, 4, .on 13, 7200, .wall, 0⟩,
   ⟨2086, 2086, 5, .on 25, 7200, .wall, 3600⟩]

/-- The rules of Philippines. -/
def philippines : List Rule :=
  [⟨1936, 1936, 10, .on 31, 86400, .wall, 3600⟩,
   ⟨1937, 1937, 1, .on 15, 86400, .wall, 0⟩,
   ⟨1941, 1941, 12, .on 15, 86400, .wall, 3600⟩,
   ⟨1945, 1945, 11, .on 30, 86400, .wall, 0⟩,
   ⟨1954, 1954, 4, .on 11, 86400, .wall, 3600⟩,
   ⟨1954, 1954, 6, .on 4, 86400, .wall, 0⟩,
   ⟨1977, 1977, 3, .on 27, 86400, .wall, 3600⟩,
   ⟨1977, 1977, 9, .on 21, 86400, .wall, 0⟩,
   ⟨1990, 1990, 5, .on 21, 0, .wall, 3600⟩,
   ⟨1990, 1990, 7, .on 28, 86400, .wall, 0⟩]

/-- The rules of Shanghai. -/
def shanghai : List Rule :=
  [⟨1919, 1919, 4, .on 12, 86400, .wall, 3600⟩,
   ⟨1919, 1919, 9, .on 30, 86400, .wall, 0⟩,
   ⟨1940, 1940, 6, .on 1, 0, .wall, 3600⟩,
   ⟨1940, 1940, 10, .on 12, 86400, .wall, 0⟩,
   ⟨1941, 1941, 3, .on 15, 0, .wall, 3600⟩,
   ⟨1941, 1941, 11, .on 1, 86400, .wall, 0⟩,
   ⟨1942, 1942, 1, .on 31, 0, .wall, 3600⟩,
   ⟨1945, 1945, 9, .on 1, 86400, .wall, 0⟩,
   ⟨1946, 1946, 5, .on 15, 0, .wall, 3600⟩,
   ⟨1946, 1946, 9, .on 30, 86400, .wall, 0⟩,
   ⟨1947, 1947, 4, .on 15, 0, .wall, 3600⟩,
   ⟨1947, 1947, 10, .on 31, 86400, .wall, 0⟩,
   ⟨1948, 1949, 5, .on 1, 0, .wall, 3600⟩,
   ⟨1948, 1949, 9, .on 30, 86400, .wall, 0⟩]

/-- The rules of Syria. -/
def syria : List Rule :=
  [⟨1920, 1923, 4, .onOrAfter .sun 15, 7200, .wall, 3600⟩,
   ⟨1920, 1923, 10, .onOrAfter .sun 1, 7200, .wall, 0⟩,
   ⟨1962, 1962, 4, .on 29, 7200, .wall, 3600⟩,
   ⟨1962, 1962, 10, .on 1, 7200, .wall, 0⟩,
   ⟨1963, 1965, 5, .on 1, 7200, .wall, 3600⟩,
   ⟨1963, 1963, 9, .on 30, 7200, .wall, 0⟩,
   ⟨1964, 1964, 10, .on 1, 7200, .wall, 0⟩,
   ⟨1965, 1965, 9, .on 30, 7200, .wall, 0⟩,
   ⟨1966, 1966, 4, .on 24, 7200, .wall, 3600⟩,
   ⟨1966, 1976, 10, .on 1, 7200, .wall, 0⟩,
   ⟨1967, 1978, 5, .on 1, 7200, .wall, 3600⟩,
   ⟨1977, 1978, 9, .on 1, 7200, .wall, 0⟩,
   ⟨1983, 1984, 4, .on 9, 7200, .wall, 3600⟩,
   ⟨1983, 1984, 10, .on 1, 7200, .wall, 0⟩,
   ⟨1986, 1986, 2, .on 16, 7200, .wall, 3600⟩,
   ⟨1986, 1986, 10, .on 9, 7200, .wall, 0⟩,
   ⟨1987, 1987, 3, .on 1, 7200, .wall, 3600⟩,
   ⟨1987, 1988, 10, .on 31, 7200, .wall, 0⟩,
   ⟨1988, 1988, 3, .on 15, 7200, .wall, 3600⟩,
   ⟨1989, 1989, 3, .on 31, 7200, .wall, 3600⟩,
   ⟨1989, 1989, 10, .on 1, 7200, .wall, 0⟩,
   ⟨1990, 1990, 4, .on 1, 7200, .wall, 3600⟩,
   ⟨1990, 1990, 9, .on 30, 7200, .wall, 0⟩,
   ⟨1991, 1991, 4, .on 1, 0, .wall, 3600⟩,
   ⟨1991, 1992, 10, .on 1, 0, .wall, 0⟩,
   ⟨1992, 1992, 4, .on 8, 0, .wall, 3600⟩,
   ⟨1993, 1993, 3, .on 26, 0, .wall, 3600⟩,
   ⟨1993, 1993, 9, .on 25, 0, .wall, 0⟩,
   ⟨1994, 1996, 4, .on 1, 0, .wall, 3600⟩,
   ⟨1994, 2005, 10, .on 1, 0, .wall, 0⟩,
   ⟨1997, 1998, 3, .last .mon, 0, .wall, 3600⟩,
   ⟨1999, 2006, 4, .on 1, 0, .wall, 3600⟩,
   ⟨2006, 2006, 9, .on 22, 0, .wall, 0⟩,
   ⟨2007, 2007, 3, .last .fri, 0, .wall, 3600⟩,
   ⟨2007, 2007, 11, .onOrAfter .fri 1, 0, .wall, 0⟩,
   ⟨2008, 2008, 4, .onOrAfter .fri 1, 0, .wall, 3600⟩,
   ⟨2008, 2008, 11, .on 1, 0, .wall, 0⟩,
   ⟨2009, 2009, 3, .last .fri, 0, .wall, 3600⟩,
   ⟨2010, 2011, 4, .onOrAfter .fri 1, 0, .wall, 3600⟩,
   ⟨2012, 2022, 3, .last .fri, 0, .wall, 3600⟩,
   ⟨2009, 2022, 10, .last .fri, 0, .wall, 0⟩]

/-- The rules of Taiwan. -/
def taiwan : List Rule :=
  [⟨1946, 1946, 5, .on 15, 0, .wall, 3600⟩,
   ⟨1946, 1946, 10, .on 1, 0, .wall, 0⟩,
   ⟨1947, 1947, 4, .on 15, 0, .wall, 3600⟩,
   ⟨1947, 1947, 11, .on 1, 0, .wall, 0⟩,
   ⟨1948, 1951, 5, .on 1, 0, .wall, 3600⟩,
   ⟨1948, 1951, 10, .on 1, 0, .wall, 0⟩,
   ⟨1952, 1952, 3, .on 1, 0, .wall, 3600⟩,
   ⟨1952, 1954, 11, .on 1, 0, .wall, 0⟩,
   ⟨1953, 1959, 4, .on 1, 0, .wall, 3600⟩,
   ⟨1955, 1961, 10, .on 1, 0, .wall, 0⟩,
   ⟨1960, 1961, 6, .on 1, 0, .wall, 3600⟩,
   ⟨1974, 1975, 4, .on 1, 0, .wall, 3600⟩,
   ⟨1974, 1975, 10, .on 1, 0, .wall, 0⟩,
   ⟨1979, 1979, 7, .on 1, 0, .wall, 3600⟩,
   ⟨1979, 1979, 10, .on 1, 0, .wall, 0⟩]

/-- The rules of Zion. -/
def zion : List Rule :=
  [⟨1940, 1940, 5, .on 31, 86400, .universal, 3600⟩,
   ⟨1940, 1940, 9, .on 30, 86400, .universal, 0⟩,
   ⟨1940, 1940, 11, .on 16, 86400, .universal, 3600⟩,
   ⟨1942, 1946, 10, .on 31, 86400, .universal, 0⟩,
   ⟨1943, 1944, 3, .on 31, 86400, .universal, 3600⟩,
   ⟨1945, 1946, 4, .on 15, 86400, .universal, 3600⟩,
   ⟨1948, 1948, 5, .on 22, 86400, .universal, 7200⟩,
   ⟨1948, 1948, 8, .on 31, 86400, .universal, 3600⟩,
   ⟨1948, 1949, 10, .on 31, 86400, .universal, 0⟩,
   ⟨1949, 1949, 4, .on 30, 86400, .universal, 3600⟩,
   ⟨1950, 1950, 4, .on 15, 86400, .universal, 3600⟩,
   ⟨1950, 1950, 9, .on 14, 86400, .universal, 0⟩,
   ⟨1951, 1951, 3, .on 31, 86400, .universal, 3600⟩,
   ⟨1951, 1951, 11, .on 10, 86400, .universal, 0⟩,
   ⟨1952, 1952, 4, .on 19, 86400, .universal, 3600⟩,
   ⟨1952, 1952, 10, .on 18, 86400, .universal, 0⟩,
   ⟨1953, 1953, 4, .on 11, 86400, .universal, 3600⟩,
   ⟨1953, 1953, 9, .on 12, 86400, .universal, 0⟩,
   ⟨1954, 1954, 6, .on 12, 86400, .universal, 3600⟩,
   ⟨1954, 1954, 9, .on 11, 86400, .universal, 0⟩,
   ⟨1955, 1955, 6, .on 11, 86400, .universal, 3600⟩,
   ⟨1955, 1955, 9, .on 10, 86400, .universal, 0⟩,
   ⟨1956, 1956, 6, .on 2, 86400, .universal, 3600⟩,
   ⟨1956, 1956, 9, .on 29, 86400, .universal, 0⟩,
   ⟨1957, 1957, 4, .on 27, 86400, .universal, 3600⟩,
   ⟨1957, 1957, 9, .on 21, 86400, .universal, 0⟩,
   ⟨1974, 1974, 7, .on 6, 86400, .wall, 3600⟩,
   ⟨1974, 1974, 10, .on 12, 86400, .wall, 0⟩,
   ⟨1975, 1975, 4, .on 19, 86400, .wall, 3600⟩,
   ⟨1975, 1975, 8, .on 30, 86400, .wall, 0⟩,
   ⟨1980, 1980, 8, .on 2, 86400, .standard, 3600⟩,
   ⟨1980, 1980, 9, .on 13, 86400, .standard, 0⟩,
   ⟨1984, 1984, 5, .on 5, 86400, .standard, 3600⟩,
   ⟨1984, 1984, 8, .on 25, 86400, .standard, 0⟩,
   ⟨1985, 1985, 4, .on 13, 86400, .wall, 3600⟩,
   ⟨1985, 1985, 8, .on 31, 86400, .wall, 0⟩,
   ⟨1986, 1986, 5, .on 17, 86400, .wall, 3600⟩,
   ⟨1986, 1986, 9, .on 6, 86400, .wall, 0⟩,
   ⟨1987, 1987, 4, .on 14, 86400, .wall, 3600⟩,
   ⟨1987, 1987, 9, .on 12, 86400, .wall, 0⟩,
   ⟨1988, 1988, 4, .on 9, 86400, .wall, 3600⟩,
   ⟨1988, 1988, 9, .on 3, 86400, .wall, 0⟩,
   ⟨1989, 1989, 4, .on 29, 86400, .wall, 3600⟩,
   ⟨1989, 1989, 9, .on 2, 86400, .wall, 0⟩,
   ⟨1990, 1990, 3, .on 24, 86400, .wall, 3600⟩,
   ⟨1990, 1990, 8, .on 25, 86400, .wall, 0⟩,
   ⟨1991, 1991, 3, .on 23, 86400, .wall, 3600⟩,
   ⟨1991, 1991, 8, .on 31, 86400, .wall, 0⟩,
   ⟨1992, 1992, 3, .on 28, 86400, .wall, 3600⟩,
   ⟨1992, 1992, 9, .on 5, 86400, .wall, 0⟩,
   ⟨1993, 1993, 4, .on 2, 0, .wall, 3600⟩,
   ⟨1993, 1993, 9, .on 5, 0, .wall, 0⟩,
   ⟨1994, 1994, 4, .on 1, 0, .wall, 3600⟩,
   ⟨1994, 1994, 8, .on 28, 0, .wall, 0⟩,
   ⟨1995, 1995, 3, .on 31, 0, .wall, 3600⟩,
   ⟨1995, 1995, 9, .on 3, 0, .wall, 0⟩,
   ⟨1996, 1996, 3, .on 14, 86400, .wall, 3600⟩,
   ⟨1996, 1996, 9, .on 15, 86400, .wall, 0⟩,
   ⟨1997, 1997, 3, .on 20, 86400, .wall, 3600⟩,
   ⟨1997, 1997, 9, .on 13, 86400, .wall, 0⟩,
   ⟨1998, 1998, 3, .on 20, 0, .wall, 3600⟩,
   ⟨1998, 1998, 9, .on 6, 0, .wall, 0⟩,
   ⟨1999, 1999, 4, .on 2, 7200, .wall, 3600⟩,
   ⟨1999, 1999, 9, .on 3, 7200, .wall, 0⟩,
   ⟨2000, 2000, 4, .on 14, 7200, .wall, 3600⟩,
   ⟨2000, 2000, 10, .on 6, 3600, .wall, 0⟩,
   ⟨2001, 2001, 4, .on 9, 3600, .wall, 3600⟩,
   ⟨2001, 2001, 9, .on 24, 3600, .wall, 0⟩,
   ⟨2002, 2002, 3, .on 29, 3600, .wall, 3600⟩,
   ⟨2002, 2002, 10, .on 7, 3600, .wall, 0⟩,
   ⟨2003, 2003, 3, .on 28, 3600, .wall, 3600⟩,
   ⟨2003, 2003, 10, .on 3, 3600, .wall, 0⟩,
   ⟨2004, 2004, 4, .on 7, 3600, .wall, 3600⟩,
   ⟨2004, 2004, 9, .on 22, 3600, .wall, 0⟩,
   ⟨2005, 2012, 4, .onOrBefore .fri 1, 7200, .wall, 3600⟩,
   ⟨2005, 2005, 10, .on 9, 7200, .wall, 0⟩,
   ⟨2006, 2006, 10, .on 1, 7200, .wall, 0⟩,
   ⟨2007, 2007, 9, .on 16, 7200, .wall, 0⟩,
   ⟨2008, 2008, 10, .on 5, 7200, .wall, 0⟩,
   ⟨2009, 2009, 9, .on 27, 7200, .wall, 0⟩,
   ⟨2010, 2010, 9, .on 12, 7200, .wall, 0⟩,
   ⟨2011, 2011, 10, .on 2, 7200, .wall, 0⟩,
   ⟨2012, 2012, 9, .on 23, 7200, .wall, 0⟩,
   ⟨2013, lastYear, 3, .onOrAfter .fri 23, 7200, .wall, 3600⟩,
   ⟨2013, lastYear, 10, .last .sun, 7200, .wall, 0⟩]

/-! ### Histories -/

/-- The history of Asia/Almaty. -/
def asiaAlmaty : List Era :=
  [⟨18468, .fixed 0, some ⟨1924, 5, .on 2, 0, .wall⟩⟩,
   ⟨18000, .fixed 0, some ⟨1930, 6, .on 21, 0, .wall⟩⟩,
   ⟨21600, .recurring russia, some ⟨1991, 3, .on 31, 7200, .standard⟩⟩,
   ⟨18000, .recurring russia, some ⟨1992, 1, .on 19, 7200, .standard⟩⟩,
   ⟨21600, .recurring russia, some ⟨2004, 10, .on 31, 7200, .standard⟩⟩,
   ⟨21600, .fixed 0, some ⟨2024, 3, .on 1, 0, .wall⟩⟩,
   ⟨18000, .fixed 0, none⟩]

/-- The history of Asia/Amman. -/
def asiaAmman : List Era :=
  [⟨8624, .fixed 0, some ⟨1931, 1, .on 1, 0, .wall⟩⟩,
   ⟨7200, .recurring jordan, some ⟨2022, 10, .on 28, 0, .standard⟩⟩,
   ⟨10800, .fixed 0, none⟩]

/-- The history of Asia/Anadyr. -/
def asiaAnadyr : List Era :=
  [⟨42596, .fixed 0, some ⟨1924, 5, .on 2, 0, .wall⟩⟩,
   ⟨43200, .fixed 0, some ⟨1930, 6, .on 21, 0, .wall⟩⟩,
   ⟨46800, .recurring russia, some ⟨1982, 4, .on 1, 0, .standard⟩⟩,
   ⟨43200, .recurring russia, some ⟨1991, 3, .on 31, 7200, .standard⟩⟩,
   ⟨39600, .recurring russia, some ⟨1992, 1, .on 19, 7200, .standard⟩⟩,
   ⟨43200, .recurring russia, some ⟨2010, 3, .on 28, 7200, .standard⟩⟩,
   ⟨39600, .recurring russia, some ⟨2011, 3, .on 27, 7200, .standard⟩⟩,
   ⟨43200, .fixed 0, none⟩]

/-- The history of Asia/Aqtau. -/
def asiaAqtau : List Era :=
  [⟨12064, .fixed 0, some ⟨1924, 5, .on 2, 0, .wall⟩⟩,
   ⟨14400, .fixed 0, some ⟨1930, 6, .on 21, 0, .wall⟩⟩,
   ⟨18000, .fixed 0, some ⟨1981, 10, .on 1, 0, .wall⟩⟩,
   ⟨21600, .fixed 0, some ⟨1982, 4, .on 1, 0, .wall⟩⟩,
   ⟨18000, .recurring russia, some ⟨1991, 3, .on 31, 7200, .standard⟩⟩,
   ⟨14400, .recurring russia, some ⟨1992, 1, .on 19, 7200, .standard⟩⟩,
   ⟨18000, .recurring russia, some ⟨1994, 9, .on 25, 7200, .standard⟩⟩,
   ⟨14400, .recurring russia, some ⟨2004, 10, .on 31, 7200, .standard⟩⟩,
   ⟨18000, .fixed 0, none⟩]

/-- The history of Asia/Aqtobe. -/
def asiaAqtobe : List Era :=
  [⟨13720, .fixed 0, some ⟨1924, 5, .on 2, 0, .wall⟩⟩,
   ⟨14400, .fixed 0, some ⟨1930, 6, .on 21, 0, .wall⟩⟩,
   ⟨18000, .fixed 0, some ⟨1981, 4, .on 1, 0, .wall⟩⟩,
   ⟨18000, .fixed 3600, some ⟨1981, 10, .on 1, 0, .wall⟩⟩,
   ⟨21600, .fixed 0, some ⟨1982, 4, .on 1, 0, .wall⟩⟩,
   ⟨18000, .recurring russia, some ⟨1991, 3, .on 31, 7200, .standard⟩⟩,
   ⟨14400, .recurring russia, some ⟨1992, 1, .on 19, 7200, .standard⟩⟩,
   ⟨18000, .recurring russia, some ⟨2004, 10, .on 31, 7200, .standard⟩⟩,
   ⟨18000, .fixed 0, none⟩]

/-- The history of Asia/Ashgabat. -/
def asiaAshgabat : List Era :=
  [⟨14012, .fixed 0, some ⟨1924, 5, .on 2, 0, .wall⟩⟩,
   ⟨14400, .fixed 0, some ⟨1930, 6, .on 21, 0, .wall⟩⟩,
   ⟨18000, .recurring russia, some ⟨1991, 3, .on 31, 7200, .wall⟩⟩,
   ⟨14400, .recurring russia, some ⟨1992, 1, .on 19, 7200, .wall⟩⟩,
   ⟨18000, .fixed 0, none⟩]

/-- The history of Asia/Atyrau. -/
def asiaAtyrau : List Era :=
  [⟨12464, .fixed 0, some ⟨1924, 5, .on 2, 0, .wall⟩⟩,
   ⟨10800, .fixed 0, some ⟨1930, 6, .on 21, 0, .wall⟩⟩,
   ⟨18000, .fixed 0, some ⟨1981, 10, .on 1, 0, .wall⟩⟩,
   ⟨21600, .fixed 0, some ⟨1982, 4, .on 1, 0, .wall⟩⟩,
   ⟨18000, .recurring russia, some ⟨1991, 3, .on 31, 7200, .standard⟩⟩,
   ⟨14400, .recurring russia, some ⟨1992, 1, .on 19, 7200, .standard⟩⟩,
   ⟨18000, .recurring russia, some ⟨1999, 3, .on 28, 7200, .standard⟩⟩,
   ⟨14400, .recurring russia, some ⟨2004, 10, .on 31, 7200, .standard⟩⟩,
   ⟨18000, .fixed 0, none⟩]

/-- The history of Asia/Baghdad. -/
def asiaBaghdad : List Era :=
  [⟨10660, .fixed 0, some ⟨1890, 1, .on 1, 0, .wall⟩⟩,
   ⟨10656, .fixed 0, some ⟨1918, 1, .on 1, 0, .wall⟩⟩,
   ⟨10800, .fixed 0, some ⟨1982, 5, .on 1, 0, .wall⟩⟩,
   ⟨10800, .recurring iraq, none⟩]

/-- The history of Asia/Baku. -/
def asiaBaku : List Era :=
  [⟨11964, .fixed 0, some ⟨1924, 5, .on 2, 0, .wall⟩⟩,
   ⟨10800, .fixed 0, some ⟨1957, 3, .on 1, 0, .wall⟩⟩,
   ⟨14400, .recurring russia, some ⟨1991, 3, .on 31, 7200, .standard⟩⟩,
   ⟨10800, .recurring russia, some ⟨1992, 9, .last .sun, 7200, .standard⟩⟩,
   ⟨14400, .fixed 0, some ⟨1996, 1, .on 1, 0, .wall⟩⟩,
   ⟨14400, .recurring europeanUnion, some ⟨1997, 1, .on 1, 0, .wall⟩⟩,
   ⟨14400, .recurring azerbaijan, none⟩]

/-- The history of Asia/Bangkok. -/
def asiaBangkok : List Era :=
  [⟨24124, .fixed 0, some ⟨1880, 1, .on 1, 0, .wall⟩⟩,
   ⟨24124, .fixed 0, some ⟨1920, 4, .on 1, 0, .wall⟩⟩,
   ⟨25200, .fixed 0, none⟩]

/-- The history of Asia/Barnaul. -/
def asiaBarnaul : List Era :=
  [⟨20100, .fixed 0, some ⟨1919, 12, .on 10, 0, .wall⟩⟩,
   ⟨21600, .fixed 0, some ⟨1930, 6, .on 21, 0, .wall⟩⟩,
   ⟨25200, .recurring russia, some ⟨1991, 3, .on 31, 7200, .standard⟩⟩,
   ⟨21600, .recurring russia, some ⟨1992, 1, .on 19, 7200, .standard⟩⟩,
   ⟨25200, .recurring russia, some ⟨1995, 5, .on 28, 0, .wall⟩⟩,
   ⟨21600, .recurring russia, some ⟨2011, 3, .on 27, 7200, .standard⟩⟩,
   ⟨25200, .fixed 0, some ⟨2014, 10, .on 26, 7200, .standard⟩⟩,
   ⟨21600, .fixed 0, some ⟨2016, 3, .on 27, 7200, .standard⟩⟩,
   ⟨25200, .fixed 0, none⟩]

/-- The history of Asia/Beirut. -/
def asiaBeirut : List Era :=
  [⟨8520, .fixed 0, some ⟨1880, 1, .on 1, 0, .wall⟩⟩,
   ⟨7200, .recurring lebanon, none⟩]

/-- The history of Asia/Bishkek. -/
def asiaBishkek : List Era :=
  [⟨17904, .fixed 0, some ⟨1924, 5, .on 2, 0, .wall⟩⟩,
   ⟨18000, .fixed 0, some ⟨1930, 6, .on 21, 0, .wall⟩⟩,
   ⟨21600, .recurring russia, some ⟨1991, 3, .on 31, 7200, .standard⟩⟩,
   ⟨18000, .recurring russia, some ⟨1991, 8, .on 31, 7200, .wall⟩⟩,
   ⟨18000, .recurring kyrgyzstan, some ⟨2005, 8, .on 12, 0, .wall⟩⟩,
   ⟨21600, .fixed 0, none⟩]

/-- The history of Asia/Chita. -/
def asiaChita : List Era :=
  [⟨27232, .fixed 0, some ⟨1919, 12, .on 15, 0, .wall⟩⟩,
   ⟨28800, .fixed 0, some ⟨1930, 6, .on 21, 0, .wall⟩⟩,
   ⟨32400, .recurring russia, some ⟨1991, 3, .on 31, 7200, .standard⟩⟩,
   ⟨28800, .recurring russia, some ⟨1992, 1, .on 19, 7200, .standard⟩⟩,
   ⟨32400, .recurring russia, some ⟨2011, 3, .on 27, 7200, .standard⟩⟩,
   ⟨36000, .fixed 0, some ⟨2014, 10, .on 26, 7200, .standard⟩⟩,
   ⟨28800, .fixed 0, some ⟨2016, 3, .on 27, 7200, .wall⟩⟩,
   ⟨32400, .fixed 0, none⟩]

/-- The history of Asia/Colombo. -/
def asiaColombo : List Era :=
  [⟨19164, .fixed 0, some ⟨1880, 1, .on 1, 0, .wall⟩⟩,
   ⟨19172, .fixed 0, some ⟨1906, 1, .on 1, 0, .wall⟩⟩,
   ⟨19800, .fixed 0, some ⟨1942, 1, .on 5, 0, .wall⟩⟩,
   ⟨19800, .fixed 1800, some ⟨1942, 9, .on 1, 0, .wall⟩⟩,
   ⟨19800, .fixed 3600, some ⟨1945, 10, .on 16, 7200, .wall⟩⟩,
   ⟨19800, .fixed 0, some ⟨1996, 5, .on 25, 0, .wall⟩⟩,
   ⟨23400, .fixed 0, some ⟨1996, 10, .on 26, 1800, .wall⟩⟩,
   ⟨21600, .fixed 0, some ⟨2006, 4, .on 15, 1800, .wall⟩⟩,
   ⟨19800, .fixed 0, none⟩]

/-- The history of Asia/Damascus. -/
def asiaDamascus : List Era :=
  [⟨8712, .fixed 0, some ⟨1920, 1, .on 1, 0, .wall⟩⟩,
   ⟨7200, .recurring syria, some ⟨2022, 10, .on 28, 0, .wall⟩⟩,
   ⟨10800, .fixed 0, none⟩]

/-- The history of Asia/Dhaka. -/
def asiaDhaka : List Era :=
  [⟨21700, .fixed 0, some ⟨1890, 1, .on 1, 0, .wall⟩⟩,
   ⟨21200, .fixed 0, some ⟨1941, 10, .on 1, 0, .wall⟩⟩,
   ⟨23400, .fixed 0, some ⟨1942, 5, .on 15, 0, .wall⟩⟩,
   ⟨19800, .fixed 0, some ⟨1942, 9, .on 1, 0, .wall⟩⟩,
   ⟨23400, .fixed 0, some ⟨1951, 9, .on 30, 0, .wall⟩⟩,
   ⟨21600, .fixed 0, some ⟨2009, 1, .on 1, 0, .wall⟩⟩,
   ⟨21600, .recurring dhaka, none⟩]

/-- The history of Asia/Dili. -/
def asiaDili : List Era :=
  [⟨30140, .fixed 0, some ⟨1911, 12, .on 31, 57600, .universal⟩⟩,
   ⟨28800, .fixed 0, some ⟨1942, 2, .on 21, 82800, .wall⟩⟩,
   ⟨32400, .fixed 0, some ⟨1976, 5, .on 3, 0, .wall⟩⟩,
   ⟨28800, .fixed 0, some ⟨2000, 9, .on 17, 0, .wall⟩⟩,
   ⟨32400, .fixed 0, none⟩]

/-- The history of Asia/Dubai. -/
def asiaDubai : List Era :=
  [⟨13272, .fixed 0, some ⟨1920, 1, .on 1, 0, .wall⟩⟩,
   ⟨14400, .fixed 0, none⟩]

/-- The history of Asia/Dushanbe. -/
def asiaDushanbe : List Era :=
  [⟨16512, .fixed 0, some ⟨1924, 5, .on 2, 0, .wall⟩⟩,
   ⟨18000, .fixed 0, some ⟨1930, 6, .on 21, 0, .wall⟩⟩,
   ⟨21600, .recurring russia, some ⟨1991, 3, .on 31, 7200, .standard⟩⟩,
   ⟨18000, .fixed 3600, some ⟨1991, 9, .on 9, 7200, .standard⟩⟩,
   ⟨18000, .fixed 0, none⟩]

/-- The history of Asia/Famagusta. -/
def asiaFamagusta : List Era :=
  [⟨8148, .fixed 0, some ⟨1921, 11, .on 14, 0, .wall⟩⟩,
   ⟨7200, .recurring cyprus, some ⟨1998, 9, .on 1, 0, .wall⟩⟩,
   ⟨7200, .recurring europeanUnion, some ⟨2016, 9, .on 8, 0, .wall⟩⟩,
   ⟨10800, .fixed 0, some ⟨2017, 10, .on 29, 3600, .universal⟩⟩,
   ⟨7200, .recurring europeanUnion, none⟩]

/-- The history of Asia/Gaza. -/
def asiaGaza : List Era :=
  [⟨8272, .fixed 0, some ⟨1900, 10, .on 1, 0, .wall⟩⟩,
   ⟨7200, .recurring zion, some ⟨1948, 5, .on 15, 0, .wall⟩⟩,
   ⟨7200, .recurring egypt, some ⟨1967, 6, .on 5, 0, .wall⟩⟩,
   ⟨7200, .recurring zion, some ⟨1996, 1, .on 1, 0, .wall⟩⟩,
   ⟨7200, .recurring jordan, some ⟨1999, 1, .on 1, 0, .wall⟩⟩,
   ⟨7200, .recurring palestine, some ⟨2008, 8, .on 29, 0, .wall⟩⟩,
   ⟨7200, .fixed 0, some ⟨2008, 9, .on 1, 0, .wall⟩⟩,
   ⟨7200, .recurring palestine, some ⟨2010, 1, .on 1, 0, .wall⟩⟩,
   ⟨7200, .fixed 0, some ⟨2010, 3, .on 27, 60, .wall⟩⟩,
   ⟨7200, .recurring palestine, some ⟨2011, 8, .on 1, 0, .wall⟩⟩,
   ⟨7200, .fixed 0, some ⟨2012, 1, .on 1, 0, .wall⟩⟩,
   ⟨7200, .recurring palestine, none⟩]

/-- The history of Asia/Hebron. -/
def asiaHebron : List Era :=
  [⟨8423, .fixed 0, some ⟨1900, 10, .on 1, 0, .wall⟩⟩,
   ⟨7200, .recurring zion, some ⟨1948, 5, .on 15, 0, .wall⟩⟩,
   ⟨7200, .recurring egypt, some ⟨1967, 6, .on 5, 0, .wall⟩⟩,
   ⟨7200, .recurring zion, some ⟨1996, 1, .on 1, 0, .wall⟩⟩,
   ⟨7200, .recurring jordan, some ⟨1999, 1, .on 1, 0, .wall⟩⟩,
   ⟨7200, .recurring palestine, none⟩]

/-- The history of Asia/Ho_Chi_Minh. -/
def asiaHoChiMinh : List Era :=
  [⟨25590, .fixed 0, some ⟨1906, 7, .on 1, 0, .wall⟩⟩,
   ⟨25590, .fixed 0, some ⟨1911, 5, .on 1, 0, .wall⟩⟩,
   ⟨25200, .fixed 0, some ⟨1942, 12, .on 31, 82800, .wall⟩⟩,
   ⟨28800, .fixed 0, some ⟨1945, 3, .on 14, 82800, .wall⟩⟩,
   ⟨32400, .fixed 0, some ⟨1945, 9, .on 1, 86400, .wall⟩⟩,
   ⟨25200, .fixed 0, some ⟨1947, 4, .on 1, 0, .wall⟩⟩,
   ⟨28800, .fixed 0, some ⟨1955, 7, .on 1, 3600, .wall⟩⟩,
   ⟨25200, .fixed 0, some ⟨1959, 12, .on 31, 82800, .wall⟩⟩,
   ⟨28800, .fixed 0, some ⟨1975, 6, .on 13, 0, .wall⟩⟩,
   ⟨25200, .fixed 0, none⟩]

/-- The history of Asia/Hong_Kong. -/
def asiaHongKong : List Era :=
  [⟨27402, .fixed 0, some ⟨1904, 10, .on 29, 61200, .universal⟩⟩,
   ⟨28800, .fixed 0, some ⟨1941, 6, .on 15, 10800, .wall⟩⟩,
   ⟨28800, .fixed 3600, some ⟨1941, 10, .on 1, 14400, .wall⟩⟩,
   ⟨28800, .fixed 1800, some ⟨1941, 12, .on 25, 0, .wall⟩⟩,
   ⟨32400, .fixed 0, some ⟨1945, 11, .on 18, 7200, .wall⟩⟩,
   ⟨28800, .recurring hongKong, none⟩]

/-- The history of Asia/Hovd. -/
def asiaHovd : List Era :=
  [⟨21996, .fixed 0, some ⟨1905, 8, .on 1, 0, .wall⟩⟩,
   ⟨21600, .fixed 0, some ⟨1978, 1, .on 1, 0, .wall⟩⟩,
   ⟨25200, .recurring mongolia, none⟩]

/-- The history of Asia/Irkutsk. -/
def asiaIrkutsk : List Era :=
  [⟨25025, .fixed 0, some ⟨1880, 1, .on 1, 0, .wall⟩⟩,
   ⟨25025, .fixed 0, some ⟨1920, 1, .on 25, 0, .wall⟩⟩,
   ⟨25200, .fixed 0, some ⟨1930, 6, .on 21, 0, .wall⟩⟩,
   ⟨28800, .recurring russia, some ⟨1991, 3, .on 31, 7200, .standard⟩⟩,
   ⟨25200, .recurring russia, some ⟨1992, 1, .on 19, 7200, .standard⟩⟩,
   ⟨28800, .recurring russia, some ⟨2011, 3, .on 27, 7200, .standard⟩⟩,
   ⟨32400, .fixed 0, some ⟨2014, 10, .on 26, 7200, .standard⟩⟩,
   ⟨28800, .fixed 0, none⟩]

/-- The history of Asia/Jakarta. -/
def asiaJakarta : List Era :=
  [⟨25632, .fixed 0, some ⟨1867, 8, .on 10, 0, .wall⟩⟩,
   ⟨25632, .fixed 0, some ⟨1923, 12, .on 31, 60000, .universal⟩⟩,
   ⟨26400, .fixed 0, some ⟨1932, 11, .on 1, 0, .wall⟩⟩,
   ⟨27000, .fixed 0, some ⟨1942, 3, .on 23, 0, .wall⟩⟩,
   ⟨32400, .fixed 0, some ⟨1945, 9, .on 23, 0, .wall⟩⟩,
   ⟨27000, .fixed 0, some ⟨1948, 5, .on 1, 0, .wall⟩⟩,
   ⟨28800, .fixed 0, some ⟨1950, 5, .on 1, 0, .wall⟩⟩,
   ⟨27000, .fixed 0, some ⟨1964, 1, .on 1, 0, .wall⟩⟩,
   ⟨25200, .fixed 0, none⟩]

/-- The history of Asia/Jayapura. -/
def asiaJayapura : List Era :=
  [⟨33768, .fixed 0, some ⟨1932, 11, .on 1, 0, .wall⟩⟩,
   ⟨32400, .fixed 0, some ⟨1944, 9, .on 1, 0, .wall⟩⟩,
   ⟨34200, .fixed 0, some ⟨1964, 1, .on 1, 0, .wall⟩⟩,
   ⟨32400, .fixed 0, none⟩]

/-- The history of Asia/Jerusalem. -/
def asiaJerusalem : List Era :=
  [⟨8454, .fixed 0, some ⟨1880, 1, .on 1, 0, .wall⟩⟩,
   ⟨8440, .fixed 0, some ⟨1918, 1, .on 1, 0, .wall⟩⟩,
   ⟨7200, .recurring zion, none⟩]

/-- The history of Asia/Kabul. -/
def asiaKabul : List Era :=
  [⟨16608, .fixed 0, some ⟨1890, 1, .on 1, 0, .wall⟩⟩,
   ⟨14400, .fixed 0, some ⟨1945, 1, .on 1, 0, .wall⟩⟩,
   ⟨16200, .fixed 0, none⟩]

/-- The history of Asia/Kamchatka. -/
def asiaKamchatka : List Era :=
  [⟨38076, .fixed 0, some ⟨1922, 11, .on 10, 0, .wall⟩⟩,
   ⟨39600, .fixed 0, some ⟨1930, 6, .on 21, 0, .wall⟩⟩,
   ⟨43200, .recurring russia, some ⟨1991, 3, .on 31, 7200, .standard⟩⟩,
   ⟨39600, .recurring russia, some ⟨1992, 1, .on 19, 7200, .standard⟩⟩,
   ⟨43200, .recurring russia, some ⟨2010, 3, .on 28, 7200, .standard⟩⟩,
   ⟨39600, .recurring russia, some ⟨2011, 3, .on 27, 7200, .standard⟩⟩,
   ⟨43200, .fixed 0, none⟩]

/-- The history of Asia/Karachi. -/
def asiaKarachi : List Era :=
  [⟨16092, .fixed 0, some ⟨1907, 1, .on 1, 0, .wall⟩⟩,
   ⟨19800, .fixed 0, some ⟨1942, 9, .on 1, 0, .wall⟩⟩,
   ⟨19800, .fixed 3600, some ⟨1945, 10, .on 15, 0, .wall⟩⟩,
   ⟨19800, .fixed 0, some ⟨1951, 9, .on 30, 0, .wall⟩⟩,
   ⟨18000, .fixed 0, some ⟨1971, 3, .on 26, 0, .wall⟩⟩,
   ⟨18000, .recurring pakistan, none⟩]

/-- The history of Asia/Kathmandu. -/
def asiaKathmandu : List Era :=
  [⟨20476, .fixed 0, some ⟨1920, 1, .on 1, 0, .wall⟩⟩,
   ⟨19800, .fixed 0, some ⟨1986, 1, .on 1, 0, .wall⟩⟩,
   ⟨20700, .fixed 0, none⟩]

/-- The history of Asia/Khandyga. -/
def asiaKhandyga : List Era :=
  [⟨32533, .fixed 0, some ⟨1919, 12, .on 15, 0, .wall⟩⟩,
   ⟨28800, .fixed 0, some ⟨1930, 6, .on 21, 0, .wall⟩⟩,
   ⟨32400, .recurring russia, some ⟨1991, 3, .on 31, 7200, .standard⟩⟩,
   ⟨28800, .recurring russia, some ⟨1992, 1, .on 19, 7200, .standard⟩⟩,
   ⟨32400, .recurring russia, some ⟨2004, 1, .on 1, 0, .wall⟩⟩,
   ⟨36000, .recurring russia, some ⟨2011, 3, .on 27, 7200, .standard⟩⟩,
   ⟨39600, .fixed 0, some ⟨2011, 9, .on 13, 0, .standard⟩⟩,
   ⟨36000, .fixed 0, some ⟨2014, 10, .on 26, 7200, .standard⟩⟩,
   ⟨32400, .fixed 0, none⟩]

/-- The history of Asia/Kolkata. -/
def asiaKolkata : List Era :=
  [⟨21208, .fixed 0, some ⟨1854, 6, .on 28, 0, .wall⟩⟩,
   ⟨21200, .fixed 0, some ⟨1870, 1, .on 1, 0, .wall⟩⟩,
   ⟨19270, .fixed 0, some ⟨1906, 1, .on 1, 0, .wall⟩⟩,
   ⟨19800, .fixed 0, some ⟨1941, 10, .on 1, 0, .wall⟩⟩,
   ⟨19800, .fixed 3600, some ⟨1942, 5, .on 15, 0, .wall⟩⟩,
   ⟨19800, .fixed 0, some ⟨1942, 9, .on 1, 0, .wall⟩⟩,
   ⟨19800, .fixed 3600, some ⟨1945, 10, .on 15, 0, .wall⟩⟩,
   ⟨19800, .fixed 0, none⟩]

/-- The history of Asia/Krasnoyarsk. -/
def asiaKrasnoyarsk : List Era :=
  [⟨22286, .fixed 0, some ⟨1920, 1, .on 6, 0, .wall⟩⟩,
   ⟨21600, .fixed 0, some ⟨1930, 6, .on 21, 0, .wall⟩⟩,
   ⟨25200, .recurring russia, some ⟨1991, 3, .on 31, 7200, .standard⟩⟩,
   ⟨21600, .recurring russia, some ⟨1992, 1, .on 19, 7200, .standard⟩⟩,
   ⟨25200, .recurring russia, some ⟨2011, 3, .on 27, 7200, .standard⟩⟩,
   ⟨28800, .fixed 0, some ⟨2014, 10, .on 26, 7200, .standard⟩⟩,
   ⟨25200, .fixed 0, none⟩]

/-- The history of Asia/Kuching. -/
def asiaKuching : List Era :=
  [⟨26480, .fixed 0, some ⟨1926, 3, .on 1, 0, .wall⟩⟩,
   ⟨27000, .fixed 0, some ⟨1933, 1, .on 1, 0, .wall⟩⟩,
   ⟨28800, .recurring northBorneo, some ⟨1942, 2, .on 16, 0, .wall⟩⟩,
   ⟨32400, .fixed 0, some ⟨1945, 9, .on 12, 0, .wall⟩⟩,
   ⟨28800, .fixed 0, none⟩]

/-- The history of Asia/Macau. -/
def asiaMacau : List Era :=
  [⟨27250, .fixed 0, some ⟨1904, 10, .on 30, 0, .wall⟩⟩,
   ⟨28800, .fixed 0, some ⟨1941, 12, .on 21, 82800, .wall⟩⟩,
   ⟨32400, .recurring macau, some ⟨1945, 9, .on 30, 86400, .wall⟩⟩,
   ⟨28800, .recurring macau, none⟩]

/-- The history of Asia/Magadan. -/
def asiaMagadan : List Era :=
  [⟨36192, .fixed 0, some ⟨1924, 5, .on 2, 0, .wall⟩⟩,
   ⟨36000, .fixed 0, some ⟨1930, 6, .on 21, 0, .wall⟩⟩,
   ⟨39600, .recurring russia, some ⟨1991, 3, .on 31, 7200, .standard⟩⟩,
   ⟨36000, .recurring russia, some ⟨1992, 1, .on 19, 7200, .standard⟩⟩,
   ⟨39600, .recurring russia, some ⟨2011, 3, .on 27, 7200, .standard⟩⟩,
   ⟨43200, .fixed 0, some ⟨2014, 10, .on 26, 7200, .standard⟩⟩,
   ⟨36000, .fixed 0, some ⟨2016, 4, .on 24, 7200, .standard⟩⟩,
   ⟨39600, .fixed 0, none⟩]

/-- The history of Asia/Makassar. -/
def asiaMakassar : List Era :=
  [⟨28656, .fixed 0, some ⟨1920, 1, .on 1, 0, .wall⟩⟩,
   ⟨28656, .fixed 0, some ⟨1932, 11, .on 1, 0, .wall⟩⟩,
   ⟨28800, .fixed 0, some ⟨1942, 2, .on 9, 0, .wall⟩⟩,
   ⟨32400, .fixed 0, some ⟨1945, 9, .on 23, 0, .wall⟩⟩,
   ⟨28800, .fixed 0, none⟩]

/-- The history of Asia/Manila. -/
def asiaManila : List Era :=
  [⟨-57368, .fixed 0, some ⟨1844, 12, .on 31, 0, .wall⟩⟩,
   ⟨29032, .fixed 0, some ⟨1899, 9, .on 6, 14400, .universal⟩⟩,
   ⟨28800, .recurring philippines, some ⟨1942, 2, .on 11, 86400, .wall⟩⟩,
   ⟨32400, .fixed 0, some ⟨1945, 3, .on 4, 0, .wall⟩⟩,
   ⟨28800, .recurring philippines, none⟩]

/-- The history of Asia/Nicosia. -/
def asiaNicosia : List Era :=
  [⟨8008, .fixed 0, some ⟨1921, 11, .on 14, 0, .wall⟩⟩,
   ⟨7200, .recurring cyprus, some ⟨1998, 9, .on 1, 0, .wall⟩⟩,
   ⟨7200, .recurring europeanUnion, none⟩]

/-- The history of Asia/Novokuznetsk. -/
def asiaNovokuznetsk : List Era :=
  [⟨20928, .fixed 0, some ⟨1924, 5, .on 1, 0, .wall⟩⟩,
   ⟨21600, .fixed 0, some ⟨1930, 6, .on 21, 0, .wall⟩⟩,
   ⟨25200, .recurring russia, some ⟨1991, 3, .on 31, 7200, .standard⟩⟩,
   ⟨21600, .recurring russia, some ⟨1992, 1, .on 19, 7200, .standard⟩⟩,
   ⟨25200, .recurring russia, some ⟨2010, 3, .on 28, 7200, .standard⟩⟩,
   ⟨21600, .recurring russia, some ⟨2011, 3, .on 27, 7200, .standard⟩⟩,
   ⟨25200, .fixed 0, none⟩]

/-- The history of Asia/Novosibirsk. -/
def asiaNovosibirsk : List Era :=
  [⟨19900, .fixed 0, some ⟨1919, 12, .on 14, 21600, .wall⟩⟩,
   ⟨21600, .fixed 0, some ⟨1930, 6, .on 21, 0, .wall⟩⟩,
   ⟨25200, .recurring russia, some ⟨1991, 3, .on 31, 7200, .standard⟩⟩,
   ⟨21600, .recurring russia, some ⟨1992, 1, .on 19, 7200, .standard⟩⟩,
   ⟨25200, .recurring russia, some ⟨1993, 5, .on 23, 0, .wall⟩⟩,
   ⟨21600, .recurring russia, some ⟨2011, 3, .on 27, 7200, .standard⟩⟩,
   ⟨25200, .fixed 0, some ⟨2014, 10, .on 26, 7200, .standard⟩⟩,
   ⟨21600, .fixed 0, some ⟨2016, 7, .on 24, 7200, .standard⟩⟩,
   ⟨25200, .fixed 0, none⟩]

/-- The history of Asia/Omsk. -/
def asiaOmsk : List Era :=
  [⟨17610, .fixed 0, some ⟨1919, 11, .on 14, 0, .wall⟩⟩,
   ⟨18000, .fixed 0, some ⟨1930, 6, .on 21, 0, .wall⟩⟩,
   ⟨21600, .recurring russia, some ⟨1991, 3, .on 31, 7200, .standard⟩⟩,
   ⟨18000, .recurring russia, some ⟨1992, 1, .on 19, 7200, .standard⟩⟩,
   ⟨21600, .recurring russia, some ⟨2011, 3, .on 27, 7200, .standard⟩⟩,
   ⟨25200, .fixed 0, some ⟨2014, 10, .on 26, 7200, .standard⟩⟩,
   ⟨21600, .fixed 0, none⟩]

/-- The history of Asia/Oral. -/
def asiaOral : List Era :=
  [⟨12324, .fixed 0, some ⟨1924, 5, .on 2, 0, .wall⟩⟩,
   ⟨10800, .fixed 0, some ⟨1930, 6, .on 21, 0, .wall⟩⟩,
   ⟨18000, .fixed 0, some ⟨1981, 4, .on 1, 0, .wall⟩⟩,
   ⟨18000, .fixed 3600, some ⟨1981, 10, .on 1, 0, .wall⟩⟩,
   ⟨21600, .fixed 0, some ⟨1982, 4, .on 1, 0, .wall⟩⟩,
   ⟨18000, .recurring russia, some ⟨1989, 3, .on 26, 7200, .standard⟩⟩,
   ⟨14400, .recurring russia, some ⟨1992, 1, .on 19, 7200, .standard⟩⟩,
   ⟨18000, .recurring russia, some ⟨1992, 3, .on 29, 7200, .standard⟩⟩,
   ⟨14400, .recurring russia, some ⟨2004, 10, .on 31, 7200, .standard⟩⟩,
   ⟨18000, .fixed 0, none⟩]

/-- The history of Asia/Pontianak. -/
def asiaPontianak : List Era :=
  [⟨26240, .fixed 0, some ⟨1908, 5, .on 1, 0, .wall⟩⟩,
   ⟨26240, .fixed 0, some ⟨1932, 11, .on 1, 0, .wall⟩⟩,
   ⟨27000, .fixed 0, some ⟨1942, 1, .on 29, 0, .wall⟩⟩,
   ⟨32400, .fixed 0, some ⟨1945, 9, .on 23, 0, .wall⟩⟩,
   ⟨27000, .fixed 0, some ⟨1948, 5, .on 1, 0, .wall⟩⟩,
   ⟨28800, .fixed 0, some ⟨1950, 5, .on 1, 0, .wall⟩⟩,
   ⟨27000, .fixed 0, some ⟨1964, 1, .on 1, 0, .wall⟩⟩,
   ⟨28800, .fixed 0, some ⟨1988, 1, .on 1, 0, .wall⟩⟩,
   ⟨25200, .fixed 0, none⟩]

/-- The history of Asia/Pyongyang. -/
def asiaPyongyang : List Era :=
  [⟨30180, .fixed 0, some ⟨1908, 4, .on 1, 0, .wall⟩⟩,
   ⟨30600, .fixed 0, some ⟨1912, 1, .on 1, 0, .wall⟩⟩,
   ⟨32400, .fixed 0, some ⟨1945, 8, .on 24, 0, .wall⟩⟩,
   ⟨32400, .fixed 0, some ⟨2015, 8, .on 15, 0, .wall⟩⟩,
   ⟨30600, .fixed 0, some ⟨2018, 5, .on 4, 84600, .wall⟩⟩,
   ⟨32400, .fixed 0, none⟩]

/-- The history of Asia/Qatar. -/
def asiaQatar : List Era :=
  [⟨12368, .fixed 0, some ⟨1920, 1, .on 1, 0, .wall⟩⟩,
   ⟨14400, .fixed 0, some ⟨1972, 6, .on 1, 0, .wall⟩⟩,
   ⟨10800, .fixed 0, none⟩]

/-- The history of Asia/Qostanay. -/
def asiaQostanay : List Era :=
  [⟨15268, .fixed 0, some ⟨1924, 5, .on 2, 0, .wall⟩⟩,
   ⟨14400, .fixed 0, some ⟨1930, 6, .on 21, 0, .wall⟩⟩,
   ⟨18000, .fixed 0, some ⟨1981, 4, .on 1, 0, .wall⟩⟩,
   ⟨18000, .fixed 3600, some ⟨1981, 10, .on 1, 0, .wall⟩⟩,
   ⟨21600, .fixed 0, some ⟨1982, 4, .on 1, 0, .wall⟩⟩,
   ⟨18000, .recurring russia, some ⟨1991, 3, .on 31, 7200, .standard⟩⟩,
   ⟨14400, .recurring russia, some ⟨1992, 1, .on 19, 7200, .standard⟩⟩,
   ⟨18000, .recurring russia, some ⟨2004, 10, .on 31, 7200, .standard⟩⟩,
   ⟨21600, .fixed 0, some ⟨2024, 3, .on 1, 0, .wall⟩⟩,
   ⟨18000, .fixed 0, none⟩]

/-- The history of Asia/Qyzylorda. -/
def asiaQyzylorda : List Era :=
  [⟨15712, .fixed 0, some ⟨1924, 5, .on 2, 0, .wall⟩⟩,
   ⟨14400, .fixed 0, some ⟨1930, 6, .on 21, 0, .wall⟩⟩,
   ⟨18000, .fixed 0, some ⟨1981, 4, .on 1, 0, .wall⟩⟩,
   ⟨18000, .fixed 3600, some ⟨1981, 10, .on 1, 0, .wall⟩⟩,
   ⟨21600, .fixed 0, some ⟨1982, 4, .on 1, 0, .wall⟩⟩,
   ⟨18000, .recurring russia, some ⟨1991, 3, .on 31, 7200, .standard⟩⟩,
   ⟨14400, .recurring russia, some ⟨1991, 9, .on 29, 7200, .standard⟩⟩,
   ⟨18000, .recurring russia, some ⟨1992, 1, .on 19, 7200, .standard⟩⟩,
   ⟨21600, .recurring russia, some ⟨1992, 3, .on 29, 7200, .standard⟩⟩,
   ⟨18000, .recurring russia, some ⟨2004, 10, .on 31, 7200, .standard⟩⟩,
   ⟨21600, .fixed 0, some ⟨2018, 12, .on 21, 0, .wall⟩⟩,
   ⟨18000, .fixed 0, none⟩]

/-- The history of Asia/Riyadh. -/
def asiaRiyadh : List Era :=
  [⟨11212, .fixed 0, some ⟨1947, 3, .on 14, 0, .wall⟩⟩,
   ⟨10800, .fixed 0, none⟩]

/-- The history of Asia/Sakhalin. -/
def asiaSakhalin : List Era :=
  [⟨34248, .fixed 0, some ⟨1905, 8, .on 23, 0, .wall⟩⟩,
   ⟨32400, .fixed 0, some ⟨1945, 8, .on 25, 0, .wall⟩⟩,
   ⟨39600, .recurring russia, some ⟨1991, 3, .on 31, 7200, .standard⟩⟩,
   ⟨36000, .recurring russia, some ⟨1992, 1, .on 19, 7200, .standard⟩⟩,
   ⟨39600, .recurring russia, some ⟨1997, 3, .last .sun, 7200, .standard⟩⟩,
   ⟨36000, .recurring russia, some ⟨2011, 3, .on 27, 7200, .standard⟩⟩,
   ⟨39600, .fixed 0, some ⟨2014, 10, .on 26, 7200, .standard⟩⟩,
   ⟨36000, .fixed 0, some ⟨2016, 3, .on 27, 7200, .standard⟩⟩,
   ⟨39600, .fixed 0, none⟩]

/-- The history of Asia/Samarkand. -/
def asiaSamarkand : List Era :=
  [⟨16073, .fixed 0, some ⟨1924, 5, .on 2, 0, .wall⟩⟩,
   ⟨14400, .fixed 0, some ⟨1930, 6, .on 21, 0, .wall⟩⟩,
   ⟨18000, .fixed 0, some ⟨1981, 4, .on 1, 0, .wall⟩⟩,
   ⟨18000, .fixed 3600, some ⟨1981, 10, .on 1, 0, .wall⟩⟩,
   ⟨21600, .fixed 0, some ⟨1982, 4, .on 1, 0, .wall⟩⟩,
   ⟨18000, .recurring russia, some ⟨1992, 1, .on 1, 0, .wall⟩⟩,
   ⟨18000, .fixed 0, none⟩]

/-- The history of Asia/Seoul. -/
def asiaSeoul : List Era :=
  [⟨30472, .fixed 0, some ⟨1908, 4, .on 1, 0, .wall⟩⟩,
   ⟨30600, .fixed 0, some ⟨1912, 1, .on 1, 0, .wall⟩⟩,
   ⟨32400, .fixed 0, some ⟨1945, 9, .on 8, 0, .wall⟩⟩,
   ⟨32400, .recurring korea, some ⟨1954, 3, .on 21, 0, .wall⟩⟩,
   ⟨30600, .recurring korea, some ⟨1961, 8, .on 10, 0, .wall⟩⟩,
   ⟨32400, .recurring korea, none⟩]

/-- The history of Asia/Shanghai. -/
def asiaShanghai : List Era :=
  [⟨29143, .fixed 0, some ⟨1901, 1, .on 1, 0, .wall⟩⟩,
   ⟨28800, .recurring shanghai, some ⟨1949, 5, .on 28, 0, .wall⟩⟩,
   ⟨28800, .recurring china, none⟩]

/-- The history of Asia/Singapore. -/
def asiaSingapore : List Era :=
  [⟨24925, .fixed 0, some ⟨1901, 1, .on 1, 0, .wall⟩⟩,
   ⟨24925, .fixed 0, some ⟨1905, 6, .on 1, 0, .wall⟩⟩,
   ⟨25200, .fixed 0, some ⟨1933, 1, .on 1, 0, .wall⟩⟩,
   ⟨25200, .fixed 1200, some ⟨1936, 1, .on 1, 0, .wall⟩⟩,
   ⟨26400, .fixed 0, some ⟨1941, 9, .on 1, 0, .wall⟩⟩,
   ⟨27000, .fixed 0, some ⟨1942, 2, .on 16, 0, .wall⟩⟩,
   ⟨32400, .fixed 0, some ⟨1945, 9, .on 12, 0, .wall⟩⟩,
   ⟨27000, .fixed 0, some ⟨1981, 12, .on 31, 57600, .universal⟩⟩,
   ⟨28800, .fixed 0, none⟩]

/-- The history of Asia/Srednekolymsk. -/
def asiaSrednekolymsk : List Era :=
  [⟨36892, .fixed 0, some ⟨1924, 5, .on 2, 0, .wall⟩⟩,
   ⟨36000, .fixed 0, some ⟨1930, 6, .on 21, 0, .wall⟩⟩,
   ⟨39600, .recurring russia, some ⟨1991, 3, .on 31, 7200, .standard⟩⟩,
   ⟨36000, .recurring russia, some ⟨1992, 1, .on 19, 7200, .standard⟩⟩,
   ⟨39600, .recurring russia, some ⟨2011, 3, .on 27, 7200, .standard⟩⟩,
   ⟨43200, .fixed 0, some ⟨2014, 10, .on 26, 7200, .standard⟩⟩,
   ⟨39600, .fixed 0, none⟩]

/-- The history of Asia/Taipei. -/
def asiaTaipei : List Era :=
  [⟨29160, .fixed 0, some ⟨1896, 1, .on 1, 0, .wall⟩⟩,
   ⟨28800, .fixed 0, some ⟨1937, 10, .on 1, 0, .wall⟩⟩,
   ⟨32400, .fixed 0, some ⟨1945, 9, .on 21, 3600, .wall⟩⟩,
   ⟨28800, .recurring taiwan, none⟩]

/-- The history of Asia/Tashkent. -/
def asiaTashkent : List Era :=
  [⟨16631, .fixed 0, some ⟨1924, 5, .on 2, 0, .wall⟩⟩,
   ⟨18000, .fixed 0, some ⟨1930, 6, .on 21, 0, .wall⟩⟩,
   ⟨21600, .recurring russia, some ⟨1991, 3, .on 31, 7200, .wall⟩⟩,
   ⟨18000, .recurring russia, some ⟨1992, 1, .on 1, 0, .wall⟩⟩,
   ⟨18000, .fixed 0, none⟩]

/-- The history of Asia/Tbilisi. -/
def asiaTbilisi : List Era :=
  [⟨10751, .fixed 0, some ⟨1880, 1, .on 1, 0, .wall⟩⟩,
   ⟨10751, .fixed 0, some ⟨1924, 5, .on 2, 0, .wall⟩⟩,
   ⟨10800, .fixed 0, some ⟨1957, 3, .on 1, 0, .wall⟩⟩,
   ⟨14400, .recurring russia, some ⟨1991, 3, .on 31, 7200, .standard⟩⟩,
   ⟨10800, .recurring russia, some ⟨1992, 1, .on 1, 0, .wall⟩⟩,
   ⟨10800, .recurring easternEurope, some ⟨1994, 9, .last .sun, 0, .wall⟩⟩,
   ⟨14400, .recurring easternEurope, some ⟨1996, 10, .last .sun, 0, .wall⟩⟩,
   ⟨14400, .fixed 3600, some ⟨1997, 3, .last .sun, 0, .wall⟩⟩,
   ⟨14400, .recurring easternEurope, some ⟨2004, 6, .on 27, 0, .wall⟩⟩,
   ⟨10800, .recurring russia, some ⟨2005, 3, .last .sun, 7200, .wall⟩⟩,
   ⟨14400, .fixed 0, none⟩]

/-- The history of Asia/Tehran. -/
def asiaTehran : List Era :=
  [⟨12344, .fixed 0, some ⟨1916, 1, .on 1, 0, .wall⟩⟩,
   ⟨12344, .fixed 0, some ⟨1935, 6, .on 13, 0, .wall⟩⟩,
   ⟨12600, .recurring iran, some ⟨1977, 10, .on 20, 86400, .wall⟩⟩,
   ⟨14400, .recurring iran, some ⟨1978, 11, .on 10, 86400, .wall⟩⟩,
   ⟨12600, .recurring iran, none⟩]

/-- The history of Asia/Thimphu. -/
def asiaThimphu : List Era :=
  [⟨21516, .fixed 0, some ⟨1947, 8, .on 15, 0, .wall⟩⟩,
   ⟨19800, .fixed 0, some ⟨1987, 10, .on 1, 0, .wall⟩⟩,
   ⟨21600, .fixed 0, none⟩]

/-- The history of Asia/Tokyo. -/
def asiaTokyo : List Era :=
  [⟨33539, .fixed 0, some ⟨1887, 12, .on 31, 54000, .universal⟩⟩,
   ⟨32400, .recurring japan, none⟩]

/-- The history of Asia/Tomsk. -/
def asiaTomsk : List Era :=
  [⟨20391, .fixed 0, some ⟨1919, 12, .on 22, 0, .wall⟩⟩,
   ⟨21600, .fixed 0, some ⟨1930, 6, .on 21, 0, .wall⟩⟩,
   ⟨25200, .recurring russia, some ⟨1991, 3, .on 31, 7200, .standard⟩⟩,
   ⟨21600, .recurring russia, some ⟨1992, 1, .on 19, 7200, .standard⟩⟩,
   ⟨25200, .recurring russia, some ⟨2002, 5, .on 1, 10800, .wall⟩⟩,
   ⟨21600, .recurring russia, some ⟨2011, 3, .on 27, 7200, .standard⟩⟩,
   ⟨25200, .fixed 0, some ⟨2014, 10, .on 26, 7200, .standard⟩⟩,
   ⟨21600, .fixed 0, some ⟨2016, 5, .on 29, 7200, .standard⟩⟩,
   ⟨25200, .fixed 0, none⟩]

/-- The history of Asia/Ulaanbaatar. -/
def asiaUlaanbaatar : List Era :=
  [⟨25652, .fixed 0, some ⟨1905, 8, .on 1, 0, .wall⟩⟩,
   ⟨25200, .fixed 0, some ⟨1978, 1, .on 1, 0, .wall⟩⟩,
   ⟨28800, .recurring mongolia, none⟩]

/-- The history of Asia/Urumqi. -/
def asiaUrumqi : List Era :=
  [⟨21020, .fixed 0, some ⟨1928, 1, .on 1, 0, .wall⟩⟩,
   ⟨21600, .fixed 0, none⟩]

/-- The history of Asia/Ust-Nera. -/
def asiaUstNera : List Era :=
  [⟨34374, .fixed 0, some ⟨1919, 12, .on 15, 0, .wall⟩⟩,
   ⟨28800, .fixed 0, some ⟨1930, 6, .on 21, 0, .wall⟩⟩,
   ⟨32400, .recurring russia, some ⟨1981, 4, .on 1, 0, .wall⟩⟩,
   ⟨39600, .recurring russia, some ⟨1991, 3, .on 31, 7200, .standard⟩⟩,
   ⟨36000, .recurring russia, some ⟨1992, 1, .on 19, 7200, .standard⟩⟩,
   ⟨39600, .recurring russia, some ⟨2011, 3, .on 27, 7200, .standard⟩⟩,
   ⟨43200, .fixed 0, some ⟨2011, 9, .on 13, 0, .standard⟩⟩,
   ⟨39600, .fixed 0, some ⟨2014, 10, .on 26, 7200, .standard⟩⟩,
   ⟨36000, .fixed 0, none⟩]

/-- The history of Asia/Vladivostok. -/
def asiaVladivostok : List Era :=
  [⟨31651, .fixed 0, some ⟨1922, 11, .on 15, 0, .wall⟩⟩,
   ⟨32400, .fixed 0, some ⟨1930, 6, .on 21, 0, .wall⟩⟩,
   ⟨36000, .recurring russia, some ⟨1991, 3, .on 31, 7200, .standard⟩⟩,
   ⟨32400, .recurring russia, some ⟨1992, 1, .on 19, 7200, .standard⟩⟩,
   ⟨36000, .recurring russia, some ⟨2011, 3, .on 27, 7200, .standard⟩⟩,
   ⟨39600, .fixed 0, some ⟨2014, 10, .on 26, 7200, .standard⟩⟩,
   ⟨36000, .fixed 0, none⟩]

/-- The history of Asia/Yakutsk. -/
def asiaYakutsk : List Era :=
  [⟨31138, .fixed 0, some ⟨1919, 12, .on 15, 0, .wall⟩⟩,
   ⟨28800, .fixed 0, some ⟨1930, 6, .on 21, 0, .wall⟩⟩,
   ⟨32400, .recurring russia, some ⟨1991, 3, .on 31, 7200, .standard⟩⟩,
   ⟨28800, .recurring russia, some ⟨1992, 1, .on 19, 7200, .standard⟩⟩,
   ⟨32400, .recurring russia, some ⟨2011, 3, .on 27, 7200, .standard⟩⟩,
   ⟨36000, .fixed 0, some ⟨2014, 10, .on 26, 7200, .standard⟩⟩,
   ⟨32400, .fixed 0, none⟩]

/-- The history of Asia/Yangon. -/
def asiaYangon : List Era :=
  [⟨23087, .fixed 0, some ⟨1880, 1, .on 1, 0, .wall⟩⟩,
   ⟨23087, .fixed 0, some ⟨1920, 1, .on 1, 0, .wall⟩⟩,
   ⟨23400, .fixed 0, some ⟨1942, 5, .on 1, 0, .wall⟩⟩,
   ⟨32400, .fixed 0, some ⟨1945, 5, .on 3, 0, .wall⟩⟩,
   ⟨23400, .fixed 0, none⟩]

/-- The history of Asia/Yekaterinburg. -/
def asiaYekaterinburg : List Era :=
  [⟨14553, .fixed 0, some ⟨1916, 7, .on 3, 0, .wall⟩⟩,
   ⟨13505, .fixed 0, some ⟨1919, 7, .on 15, 14400, .wall⟩⟩,
   ⟨14400, .fixed 0, some ⟨1930, 6, .on 21, 0, .wall⟩⟩,
   ⟨18000, .recurring russia, some ⟨1991, 3, .on 31, 7200, .standard⟩⟩,
   ⟨14400, .recurring russia, some ⟨1992, 1, .on 19, 7200, .standard⟩⟩,
   ⟨18000, .recurring russia, some ⟨2011, 3, .on 27, 7200, .standard⟩⟩,
   ⟨21600, .fixed 0, some ⟨2014, 10, .on 26, 7200, .standard⟩⟩,
   ⟨18000, .fixed 0, none⟩]

/-- The history of Asia/Yerevan. -/
def asiaYerevan : List Era :=
  [⟨10680, .fixed 0, some ⟨1924, 5, .on 2, 0, .wall⟩⟩,
   ⟨10800, .fixed 0, some ⟨1957, 3, .on 1, 0, .wall⟩⟩,
   ⟨14400, .recurring russia, some ⟨1991, 3, .on 31, 7200, .standard⟩⟩,
   ⟨10800, .recurring russia, some ⟨1995, 9, .on 24, 7200, .standard⟩⟩,
   ⟨14400, .fixed 0, some ⟨1997, 1, .on 1, 0, .wall⟩⟩,
   ⟨14400, .recurring russia, some ⟨2011, 1, .on 1, 0, .wall⟩⟩,
   ⟨14400, .recurring armenia, none⟩]

/-- The zones of Asia by name. -/
def asiaZones : List (String × List Era) :=
  [("Asia/Almaty", asiaAlmaty),
   ("Asia/Amman", asiaAmman),
   ("Asia/Anadyr", asiaAnadyr),
   ("Asia/Aqtau", asiaAqtau),
   ("Asia/Aqtobe", asiaAqtobe),
   ("Asia/Ashgabat", asiaAshgabat),
   ("Asia/Atyrau", asiaAtyrau),
   ("Asia/Baghdad", asiaBaghdad),
   ("Asia/Baku", asiaBaku),
   ("Asia/Bangkok", asiaBangkok),
   ("Asia/Barnaul", asiaBarnaul),
   ("Asia/Beirut", asiaBeirut),
   ("Asia/Bishkek", asiaBishkek),
   ("Asia/Chita", asiaChita),
   ("Asia/Colombo", asiaColombo),
   ("Asia/Damascus", asiaDamascus),
   ("Asia/Dhaka", asiaDhaka),
   ("Asia/Dili", asiaDili),
   ("Asia/Dubai", asiaDubai),
   ("Asia/Dushanbe", asiaDushanbe),
   ("Asia/Famagusta", asiaFamagusta),
   ("Asia/Gaza", asiaGaza),
   ("Asia/Hebron", asiaHebron),
   ("Asia/Ho_Chi_Minh", asiaHoChiMinh),
   ("Asia/Hong_Kong", asiaHongKong),
   ("Asia/Hovd", asiaHovd),
   ("Asia/Irkutsk", asiaIrkutsk),
   ("Asia/Jakarta", asiaJakarta),
   ("Asia/Jayapura", asiaJayapura),
   ("Asia/Jerusalem", asiaJerusalem),
   ("Asia/Kabul", asiaKabul),
   ("Asia/Kamchatka", asiaKamchatka),
   ("Asia/Karachi", asiaKarachi),
   ("Asia/Kathmandu", asiaKathmandu),
   ("Asia/Khandyga", asiaKhandyga),
   ("Asia/Kolkata", asiaKolkata),
   ("Asia/Krasnoyarsk", asiaKrasnoyarsk),
   ("Asia/Kuching", asiaKuching),
   ("Asia/Macau", asiaMacau),
   ("Asia/Magadan", asiaMagadan),
   ("Asia/Makassar", asiaMakassar),
   ("Asia/Manila", asiaManila),
   ("Asia/Nicosia", asiaNicosia),
   ("Asia/Novokuznetsk", asiaNovokuznetsk),
   ("Asia/Novosibirsk", asiaNovosibirsk),
   ("Asia/Omsk", asiaOmsk),
   ("Asia/Oral", asiaOral),
   ("Asia/Pontianak", asiaPontianak),
   ("Asia/Pyongyang", asiaPyongyang),
   ("Asia/Qatar", asiaQatar),
   ("Asia/Qostanay", asiaQostanay),
   ("Asia/Qyzylorda", asiaQyzylorda),
   ("Asia/Riyadh", asiaRiyadh),
   ("Asia/Sakhalin", asiaSakhalin),
   ("Asia/Samarkand", asiaSamarkand),
   ("Asia/Seoul", asiaSeoul),
   ("Asia/Shanghai", asiaShanghai),
   ("Asia/Singapore", asiaSingapore),
   ("Asia/Srednekolymsk", asiaSrednekolymsk),
   ("Asia/Taipei", asiaTaipei),
   ("Asia/Tashkent", asiaTashkent),
   ("Asia/Tbilisi", asiaTbilisi),
   ("Asia/Tehran", asiaTehran),
   ("Asia/Thimphu", asiaThimphu),
   ("Asia/Tokyo", asiaTokyo),
   ("Asia/Tomsk", asiaTomsk),
   ("Asia/Ulaanbaatar", asiaUlaanbaatar),
   ("Asia/Urumqi", asiaUrumqi),
   ("Asia/Ust-Nera", asiaUstNera),
   ("Asia/Vladivostok", asiaVladivostok),
   ("Asia/Yakutsk", asiaYakutsk),
   ("Asia/Yangon", asiaYangon),
   ("Asia/Yekaterinburg", asiaYekaterinburg),
   ("Asia/Yerevan", asiaYerevan)]

end Daybook.Zone.Tables
