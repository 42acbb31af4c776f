namespace LogLayout.Time

/-!
The eras of the time zones.

A line `= name` opens a zone.  Each further line is one era: the offset of
standard time in seconds east, the saving in seconds or the name of a set of
rules, and the end of the era, which the last one lacks: year, month, day and
time, written as in a rule.
-/

def eraTable : String :=
  "= Africa/Abidjan
   -968 0 1912 1 1 0w
   0 0
   = Africa/Algiers
   732 0 1891 3 16 0w
   561 0 1911 3 11 0w
   0 d 1940 2 25 7200w
   3600 d 1946 10 7 0w
   0 0 1956 1 29 0w
   3600 0 1963 4 14 0w
   0 d 1977 10 21 0w
   3600 d 1979 10 26 0w
   0 d 1981 5 1 0w
   3600 0
   = Africa/Bissau
   -3740 0 1912 1 1 3600u
   -3600 0 1975 1 1 0w
   0 0
   = Africa/Cairo
   7509 0 1900 10 1 0w
   7200 K
   = Africa/Casablanca
   -1820 0 1913 10 26 0w
   0 M 1984 3 16 0w
   3600 0 1986 1 1 0w
   0 M 2018 10 28 10800w
   0 M
   = Africa/Ceuta
   -1276 0 1901 1 1 0u
   0 0 1918 5 6 82800w
   0 3600 1918 10 7 82800w
   0 0 1924 1 1 0w
   0 s 1929 1 1 0w
   0 0 1967 1 1 0w
   0 Sp 1984 3 16 0w
   3600 0 1986 1 1 0w
   3600 E
   = Africa/El_Aaiun
   -3168 0 1934 1 1 0w
   -3600 0 1976 4 14 0w
   0 M 2018 10 28 10800w
   0 M
   = Africa/Johannesburg
   6720 0 1892 2 8 0w
   5400 0 1903 3 1 0w
   7200 SA
   = Africa/Juba
   7588 0 1931 1 1 0w
   7200 SD 2000 1 15 43200w
   10800 0 2021 2 1 0w
   7200 0
   = Africa/Khartoum
   7808 0 1931 1 1 0w
   7200 SD 2000 1 15 43200w
   10800 0 2017 11 1 0w
   7200 0
   = Africa/Lagos
   815 0 1905 7 1 0w
   0 0 1908 7 1 0w
   815 0 1914 1 1 0w
   1800 0 1919 9 1 0w
   3600 0
   = Africa/Maputo
   7818 0 1909 1 1 0w
   7200 0
   = Africa/Monrovia
   -2588 0 1882 1 1 0w
   -2588 0 1919 3 1 0w
   -2670 0 1972 1 7 0w
   0 0
   = Africa/Nairobi
   8836 0 1908 5 1 0w
   9000 0 1928 6 30 86400w
   10800 0 1930 1 4 86400w
   9000 0 1936 12 31 86400w
   9900 0 1942 7 31 86400w
   10800 0
   = Africa/Ndjamena
   3612 0 1912 1 1 0w
   3600 0 1979 10 14 0w
   3600 3600 1980 3 8 0w
   3600 0
   = Africa/Sao_Tome
   1616 0 1884 1 1 0w
   -2205 0 1912 1 1 0u
   0 0 2018 1 1 3600w
   3600 0 2019 1 1 7200w
   0 0
   = Africa/Tripoli
   3164 0 1920 1 1 0w
   3600 L 1959 1 1 0w
   7200 0 1982 1 1 0w
   3600 L 1990 5 4 0w
   7200 0 1996 9 30 0w
   3600 L 1997 10 4 0w
   7200 0 2012 11 10 7200w
   3600 L 2013 10 25 7200w
   7200 0
   = Africa/Tunis
   2444 0 1881 5 12 0w
   561 0 1911 3 11 0w
   3600 n
   = Africa/Windhoek
   4104 0 1892 2 8 0w
   5400 0 1903 3 1 0w
   7200 0 1942 9 20 7200w
   7200 3600 1943 3 21 7200w
   7200 0 1990 3 21 0w
   7200 0 1994 3 21 0w
   3600 NA 2017 10 24 0w
   7200 0
   = America/Adak
   44002 0 1867 10 19 45875w
   -42398 0 1900 8 20 43200w
   -39600 0 1942 1 1 0w
   -39600 u 1946 1 1 0w
   -39600 0 1967 4 1 0w
   -39600 0 1969 1 1 0w
   -39600 u 1983 10 30 7200w
   -36000 u 1983 11 30 0w
   -36000 u
   = America/Anchorage
   50424 0 1867 10 19 52297w
   -35976 0 1900 8 20 43200w
   -36000 0 1942 1 1 0w
   -36000 u 1967 4 1 0w
   -36000 0 1969 1 1 0w
   -36000 u 1983 10 30 7200w
   -32400 u 1983 11 30 0w
   -32400 u
   = America/Araguaina
   -11568 0 1914 1 1 0w
   -10800 B 1990 9 17 0w
   -10800 0 1995 9 14 0w
   -10800 B 2003 9 24 0w
   -10800 0 2012 10 21 0w
   -10800 B 2013 9 1 0w
   -10800 0
   = America/Argentina/Buenos_Aires
   -14028 0 1894 10 31 0w
   -15408 0 1920 5 1 0w
   -14400 0 1930 12 1 0w
   -14400 A 1969 10 5 0w
   -10800 A 1999 10 3 0w
   -14400 A 2000 3 3 0w
   -10800 A
   = America/Argentina/Catamarca
   -15788 0 1894 10 31 0w
   -15408 0 1920 5 1 0w
   -14400 0 1930 12 1 0w
   -14400 A 1969 10 5 0w
   -10800 A 1991 3 3 0w
   -14400 0 1991 10 20 0w
   -10800 A 1999 10 3 0w
   -14400 A 2000 3 3 0w
   -10800 0 2004 6 1 0w
   -14400 0 2004 6 20 0w
   -10800 A 2008 10 18 0w
   -10800 0
   = America/Argentina/Cordoba
   -15408 0 1894 10 31 0w
   -15408 0 1920 5 1 0w
   -14400 0 1930 12 1 0w
   -14400 A 1969 10 5 0w
   -10800 A 1991 3 3 0w
   -14400 0 1991 10 20 0w
   -10800 A 1999 10 3 0w
   -14400 A 2000 3 3 0w
   -10800 A
   = America/Argentina/Jujuy
   -15672 0 1894 10 31 0w
   -15408 0 1920 5 1 0w
   -14400 0 1930 12 1 0w
   -14400 A 1969 10 5 0w
   -10800 A 1990 3 4 0w
   -14400 0 1990 10 28 0w
   -14400 3600 1991 3 17 0w
   -14400 0 1991 10 6 0w
   -10800 3600 1992 1 1 0w
   -10800 A 1999 10 3 0w
   -14400 A 2000 3 3 0w
   -10800 A 2008 10 18 0w
   -10800 0
   = America/Argentina/La_Rioja
   -16044 0 1894 10 31 0w
   -15408 0 1920 5 1 0w
   -14400 0 1930 12 1 0w
   -14400 A 1969 10 5 0w
   -10800 A 1991 3 1 0w
   -14400 0 1991 5 7 0w
   -10800 A 1999 10 3 0w
   -14400 A 2000 3 3 0w
   -10800 0 2004 6 1 0w
   -14400 0 2004 6 20 0w
   -10800 A 2008 10 18 0w
   -10800 0
   = America/Argentina/Mendoza
   -16516 0 1894 10 31 0w
   -15408 0 1920 5 1 0w
   -14400 0 1930 12 1 0w
   -14400 A 1969 10 5 0w
   -10800 A 1990 3 4 0w
   -14400 0 1990 10 15 0w
   -14400 3600 1991 3 1 0w
   -14400 0 1991 10 15 0w
   -14400 3600 1992 3 1 0w
   -14400 0 1992 10 18 0w
   -10800 A 1999 10 3 0w
   -14400 A 2000 3 3 0w
   -10800 0 2004 5 23 0w
   -14400 0 2004 9 26 0w
   -10800 A 2008 10 18 0w
   -10800 0
   = America/Argentina/Rio_Gallegos
   -16612 0 1894 10 31 0w
   -15408 0 1920 5 1 0w
   -14400 0 1930 12 1 0w
   -14400 A 1969 10 5 0w
   -10800 A 1999 10 3 0w
   -14400 A 2000 3 3 0w
   -10800 0 2004 6 1 0w
   -14400 0 2004 6 20 0w
   -10800 A 2008 10 18 0w
   -10800 0
   = America/Argentina/Salta
   -15700 0 1894 10 31 0w
   -15408 0 1920 5 1 0w
   -14400 0 1930 12 1 0w
   -14400 A 1969 10 5 0w
   -10800 A 1991 3 3 0w
   -14400 0 1991 10 20 0w
   -10800 A 1999 10 3 0w
   -14400 A 2000 3 3 0w
   -10800 A 2008 10 18 0w
   -10800 0
   = America/Argentina/San_Juan
   -16444 0 1894 10 31 0w
   -15408 0 1920 5 1 0w
   -14400 0 1930 12 1 0w
   -14400 A 1969 10 5 0w
   -10800 A 1991 3 1 0w
   -14400 0 1991 5 7 0w
   -10800 A 1999 10 3 0w
   -14400 A 2000 3 3 0w
   -10800 0 2004 5 31 0w
   -14400 0 2004 7 25 0w
   -10800 A 2008 10 18 0w
   -10800 0
   = America/Argentina/San_Luis
   -15924 0 1894 10 31 0w
   -15408 0 1920 5 1 0w
   -14400 0 1930 12 1 0w
   -14400 A 1969 10 5 0w
   -10800 A 1990 1 1 0w
   -10800 3600 1990 3 14 0w
   -14400 0 1990 10 15 0w
   -14400 3600 1991 3 1 0w
   -14400 0 1991 6 1 0w
   -10800 0 1999 10 3 0w
   -14400 3600 2000 3 3 0w
   -10800 0 2004 5 31 0w
   -14400 0 2004 7 25 0w
   -10800 A 2008 1 21 0w
   -14400 Sa 2009 10 11 0w
   -10800 0
   = America/Argentina/Tucuman
   -15652 0 1894 10 31 0w
   -15408 0 1920 5 1 0w
   -14400 0 1930 12 1 0w
   -14400 A 1969 10 5 0w
   -10800 A 1991 3 3 0w
   -14400 0 1991 10 20 0w
   -10800 A 1999 10 3 0w
   -14400 A 2000 3 3 0w
   -10800 0 2004 6 1 0w
   -14400 0 2004 6 13 0w
   -10800 A
   = America/Argentina/Ushuaia
   -16392 0 1894 10 31 0w
   -15408 0 1920 5 1 0w
   -14400 0 1930 12 1 0w
   -14400 A 1969 10 5 0w
   -10800 A 1999 10 3 0w
   -14400 A 2000 3 3 0w
   -10800 0 2004 5 30 0w
   -14400 0 2004 6 20 0w
   -10800 A 2008 10 18 0w
   -10800 0
   = America/Asuncion
   -13840 0 1890 1 1 0w
   -13840 0 1931 10 10 0w
   -14400 0 1972 10 1 0w
   -10800 0 1974 4 1 0w
   -14400 y 2024 10 15 0w
   -10800 0
   = America/Bahia
   -9244 0 1914 1 1 0w
   -10800 B 2003 9 24 0w
   -10800 0 2011 10 16 0w
   -10800 B 2012 10 21 0w
   -10800 0
   = America/Bahia_Banderas
   -25260 0 1922 1 1 25200u
   -25200 0 1927 6 10 0w
   -21600 0 1930 11 15 0w
   -25200 m 1932 4 1 0w
   -21600 0 1942 4 24 0w
   -25200 0 1970 1 1 0w
   -25200 m 2010 4 4 7200w
   -21600 m
   = America/Barbados
   -14309 0 1911 8 28 0w
   -14400 BB 1944 1 1 0w
   -14400 BB 1945 1 1 0w
   -14400 BB
   = America/Belem
   -11636 0 1914 1 1 0w
   -10800 B 1988 9 12 0w
   -10800 0
   = America/Belize
   -21168 0 1912 4 1 0w
   -21600 BZ
   = America/Boa_Vista
   -14560 0 1914 1 1 0w
   -14400 B 1988 9 12 0w
   -14400 0 1999 9 30 0w
   -14400 B 2000 10 15 0w
   -14400 0
   = America/Bogota
   -17776 0 1884 3 13 0w
   -17776 0 1914 11 23 0w
   -18000 CO
   = America/Boise
   -27889 0 1883 11 18 72000u
   -28800 u 1923 5 13 7200w
   -25200 u 1974 1 1 0w
   -25200 0 1974 2 3 7200w
   -25200 u
   = America/Cambridge_Bay
   0 0 1920 1 1 0w
   -25200 Y 1999 10 31 7200w
   -21600 C 2000 10 29 7200w
   -18000 0 2000 11 5 0w
   -21600 0 2001 4 1 10800w
   -25200 C
   = America/Campo_Grande
   -13108 0 1914 1 1 0w
   -14400 B
   = America/Cancun
   -20824 0 1922 1 1 21600u
   -21600 0 1981 12 26 7200w
   -18000 0 1983 1 4 0w
   -21600 m 1997 10 26 7200w
   -18000 m 1998 8 2 7200w
   -21600 m 2015 2 1 7200w
   -18000 0
   = America/Caracas
   -16064 0 1890 1 1 0w
   -16060 0 1912 2 12 0w
   -16200 0 1965 1 1 0w
   -14400 0 2007 12 9 10800w
   -16200 0 2016 5 1 9000w
   -14400 0
   = America/Cayenne
   -12560 0 1911 7 1 0w
   -14400 0 1967 10 1 0w
   -10800 0
   = America/Chicago
   -21036 0 1883 11 18 64800u
   -21600 u 1920 1 1 0w
   -21600 Ch 1936 3 1 7200w
   -18000 0 1936 11 15 7200w
   -21600 Ch 1942 1 1 0w
   -21600 u 1946 1 1 0w
   -21600 Ch 1967 1 1 0w
   -21600 u
   = America/Chihuahua
   -25460 0 1922 1 1 25200u
   -25200 0 1927 6 10 0w
   -21600 0 1930 11 15 0w
   -25200 m 1932 4 1 0w
   -21600 0 1996 1 1 0w
   -21600 m 1998 1 1 0w
   -21600 0 1998 4 0>=1 10800w
   -25200 m 2022 10 30 7200w
   -21600 0
   = America/Ciudad_Juarez
   -25556 0 1922 1 1 25200u
   -25200 0 1927 6 10 0w
   -21600 0 1930 11 15 0w
   -25200 m 1932 4 1 0w
   -21600 0 1996 1 1 0w
   -21600 m 1998 1 1 0w
   -21600 0 1998 4 0>=1 10800w
   -25200 m 2010 1 1 0w
   -25200 u 2022 10 30 7200w
   -21600 0 2022 11 30 0w
   -25200 u
   = America/Costa_Rica
   -20173 0 1890 1 1 0w
   -20173 0 1921 1 15 0w
   -21600 CR
   = America/Coyhaique
   -17296 0 1890 1 1 0w
   -16965 0 1910 1 10 0w
   -18000 0 1916 7 1 0w
   -16965 0 1918 9 10 0w
   -14400 0 1919 7 1 0w
   -16965 0 1927 9 1 0w
   -18000 x 1932 9 1 0w
   -14400 0 1942 6 1 0w
   -18000 0 1942 8 1 0w
   -14400 0 1946 8 28 86400w
   -18000 3600 1947 3 31 86400w
   -18000 0 1947 5 21 82800w
   -14400 x 2025 3 20 0w
   -10800 0
   = America/Cuiaba
   -13460 0 1914 1 1 0w
   -14400 B 2003 9 24 0w
   -14400 0 2004 10 1 0w
   -14400 B
   = America/Danmarkshavn
   -4480 0 1916 7 28 0w
   -10800 0 1980 4 6 7200w
   -10800 E 1996 1 1 0w
   0 0
   = America/Dawson
   -33460 0 1900 8 20 0w
   -32400 Y 1965 1 1 0w
   -32400 Yu 1973 10 28 0w
   -28800 0 1980 1 1 0w
   -28800 C 2020 11 1 0w
   -25200 0
   = America/Dawson_Creek
   -28856 0 1884 1 1 0w
   -28800 C 1947 1 1 0w
   -28800 Va 1972 8 30 7200w
   -25200 0
   = America/Denver
   -25196 0 1883 11 18 68400u
   -25200 u 1920 1 1 0w
   -25200 De 1942 1 1 0w
   -25200 u 1946 1 1 0w
   -25200 De 1967 1 1 0w
   -25200 u
   = America/Detroit
   -19931 0 1905 1 1 0w
   -21600 0 1915 5 15 7200w
   -18000 0 1942 1 1 0w
   -18000 u 1946 1 1 0w
   -18000 Dt 1967 6 14 60w
   -18000 u 1969 1 1 0w
   -18000 0 1973 1 1 0w
   -18000 u 1975 1 1 0w
   -18000 0 1975 4 27 7200w
   -18000 u
   = America/Edmonton
   -27232 0 1906 9 1 0w
   -25200 Ed 1987 1 1 0w
   -25200 C
   = America/Eirunepe
   -16768 0 1914 1 1 0w
   -18000 B 1988 9 12 0w
   -18000 0 1993 9 28 0w
   -18000 B 1994 9 22 0w
   -18000 0 2008 6 24 0w
   -14400 0 2013 11 10 0w
   -18000 0
   = America/El_Salvador
   -21408 0 1921 1 1 0w
   -21600 SV
   = America/Fort_Nelson
   -29447 0 1884 1 1 0w
   -28800 Va 1946 1 1 0w
   -28800 0 1947 1 1 0w
   -28800 Va 1987 1 1 0w
   -28800 C 2015 3 8 7200w
   -25200 0
   = America/Fortaleza
   -9240 0 1914 1 1 0w
   -10800 B 1990 9 17 0w
   -10800 0 1999 9 30 0w
   -10800 B 2000 10 22 0w
   -10800 0 2001 9 13 0w
   -10800 B 2002 10 1 0w
   -10800 0
   = America/Glace_Bay
   -14388 0 1902 6 15 0w
   -14400 C 1953 1 1 0w
   -14400 H 1954 1 1 0w
   -14400 0 1972 1 1 0w
   -14400 H 1974 1 1 0w
   -14400 C
   = America/Goose_Bay
   -14500 0 1884 1 1 0w
   -12652 0 1918 1 1 0w
   -12652 C 1919 1 1 0w
   -12652 0 1935 3 30 0w
   -12600 0 1936 1 1 0w
   -12600 j 1942 5 11 0w
   -12600 C 1946 1 1 0w
   -12600 j 1966 3 15 7200w
   -14400 j 2011 11 1 0w
   -14400 C
   = America/Grand_Turk
   -17072 0 1890 1 1 0w
   -18430 0 1912 2 1 0w
   -18000 0 1979 1 1 0w
   -18000 u 2015 3 8 7200w
   -14400 0 2018 3 11 10800w
   -18000 u
   = America/Guatemala
   -21724 0 1918 10 5 0w
   -21600 GT
   = America/Guayaquil
   -19160 0 1890 1 1 0w
   -18840 0 1931 1 1 0w
   -18000 EC
   = America/Guyana
   -13959 0 1911 8 1 0w
   -14400 0 1915 3 1 0w
   -13500 0 1975 8 1 0w
   -10800 0 1992 3 29 3600w
   -14400 0
   = America/Halifax
   -15264 0 1902 6 15 0w
   -14400 H 1918 1 1 0w
   -14400 C 1919 1 1 0w
   -14400 H 1942 2 9 7200s
   -14400 C 1946 1 1 0w
   -14400 H 1974 1 1 0w
   -14400 C
   = America/Havana
   -19768 0 1890 1 1 0w
   -19776 0 1925 7 19 43200w
   -18000 Q
   = America/Hermosillo
   -26632 0 1922 1 1 25200u
   -25200 0 1927 6 10 0w
   -21600 0 1930 11 15 0w
   -25200 m 1932 4 1 0w
   -21600 0 1942 4 24 0w
   -25200 0 1996 1 1 0w
   -25200 m 1999 1 1 0w
   -25200 0
   = America/Indiana/Indianapolis
   -20678 0 1883 11 18 64800u
   -21600 u 1920 1 1 0w
   -21600 In 1942 1 1 0w
   -21600 u 1946 1 1 0w
   -21600 In 1955 4 24 7200w
   -18000 0 1957 9 29 7200w
   -21600 0 1958 4 27 7200w
   -18000 0 1969 1 1 0w
   -18000 u 1971 1 1 0w
   -18000 0 2006 1 1 0w
   -18000 u
   = America/Indiana/Knox
   -20790 0 1883 11 18 64800u
   -21600 u 1947 1 1 0w
   -21600 St 1962 4 29 7200w
   -18000 0 1963 10 27 7200w
   -21600 u 1991 10 27 7200w
   -18000 0 2006 4 2 7200w
   -21600 u
   = America/Indiana/Marengo
   -20723 0 1883 11 18 64800u
   -21600 u 1951 1 1 0w
   -21600 Ma 1961 4 30 7200w
   -18000 0 1969 1 1 0w
   -18000 u 1974 1 6 7200w
   -21600 3600 1974 10 27 7200w
   -18000 u 1976 1 1 0w
   -18000 0 2006 1 1 0w
   -18000 u
   = America/Indiana/Petersburg
   -20947 0 1883 11 18 64800u
   -21600 u 1955 1 1 0w
   -21600 Pi 1965 4 25 7200w
   -18000 0 1966 10 30 7200w
   -21600 u 1977 10 30 7200w
   -18000 0 2006 4 2 7200w
   -21600 u 2007 11 4 7200w
   -18000 u
   = America/Indiana/Tell_City
   -20823 0 1883 11 18 64800u
   -21600 u 1946 1 1 0w
   -21600 Pe 1964 4 26 7200w
   -18000 0 1967 10 29 7200w
   -21600 u 1969 4 27 7200w
   -18000 u 1971 1 1 0w
   -18000 0 2006 4 2 7200w
   -21600 u
   = America/Indiana/Vevay
   -20416 0 1883 11 18 64800u
   -21600 u 1954 4 25 7200w
   -18000 0 1969 1 1 0w
   -18000 u 1973 1 1 0w
   -18000 0 2006 1 1 0w
   -18000 u
   = America/Indiana/Vincennes
   -21007 0 1883 11 18 64800u
   -21600 u 1946 1 1 0w
   -21600 V 1964 4 26 7200w
   -18000 0 1969 1 1 0w
   -18000 u 1971 1 1 0w
   -18000 0 2006 4 2 7200w
   -21600 u 2007 11 4 7200w
   -18000 u
   = America/Indiana/Winamac
   -20785 0 1883 11 18 64800u
   -21600 u 1946 1 1 0w
   -21600 Pu 1961 4 30 7200w
   -18000 0 1969 1 1 0w
   -18000 u 1971 1 1 0w
   -18000 0 2006 4 2 7200w
   -21600 u 2007 3 11 7200w
   -18000 u
   = America/Inuvik
   0 0 1953 1 1 0w
   -28800 Y 1979 4 last0 7200w
   -25200 Y 1980 1 1 0w
   -25200 C
   = America/Iqaluit
   0 0 1942 8 1 0w
   -18000 Y 1999 10 31 7200w
   -21600 C 2000 10 29 7200w
   -18000 C
   = America/Jamaica
   -18430 0 1890 1 1 0w
   -18430 0 1912 2 1 0w
   -18000 0 1974 1 1 0w
   -18000 u 1984 1 1 0w
   -18000 0
   = America/Juneau
   54139 0 1867 10 19 56012w
   -32261 0 1900 8 20 43200w
   -28800 0 1942 1 1 0w
   -28800 u 1946 1 1 0w
   -28800 0 1969 1 1 0w
   -28800 u 1980 4 27 7200w
   -32400 u 1980 10 26 7200w
   -28800 u 1983 10 30 7200w
   -32400 u 1983 11 30 0w
   -32400 u
   = America/Kentucky/Louisville
   -20582 0 1883 11 18 64800u
   -21600 u 1921 1 1 0w
   -21600 v 1942 1 1 0w
   -21600 u 1946 1 1 0w
   -21600 v 1961 7 23 7200w
   -18000 0 1968 1 1 0w
   -18000 u 1974 1 6 7200w
   -21600 3600 1974 10 27 7200w
   -18000 u
   = America/Kentucky/Monticello
   -20364 0 1883 11 18 64800u
   -21600 u 1946 1 1 0w
   -21600 0 1968 1 1 0w
   -21600 u 2000 10 29 7200w
   -18000 u
   = America/La_Paz
   -16356 0 1890 1 1 0w
   -16356 0 1931 10 15 0w
   -16356 3600 1932 3 21 0w
   -14400 0
   = America/Lima
   -18492 0 1890 1 1 0w
   -18516 0 1908 7 28 0w
   -18000 PE
   = America/Los_Angeles
   -28378 0 1883 11 18 72000u
   -28800 u 1946 1 1 0w
   -28800 CA 1967 1 1 0w
   -28800 u
   = America/Maceio
   -8572 0 1914 1 1 0w
   -10800 B 1990 9 17 0w
   -10800 0 1995 10 13 0w
   -10800 B 1996 9 4 0w
   -10800 0 1999 9 30 0w
   -10800 B 2000 10 22 0w
   -10800 0 2001 9 13 0w
   -10800 B 2002 10 1 0w
   -10800 0
   = America/Managua
   -20708 0 1890 1 1 0w
   -20712 0 1934 6 23 0w
   -21600 0 1973 5 1 0w
   -18000 0 1975 2 16 0w
   -21600 NI 1992 1 1 14400w
   -18000 0 1992 9 24 0w
   -21600 0 1993 1 1 0w
   -18000 0 1997 1 1 0w
   -21600 NI
   = America/Manaus
   -14404 0 1914 1 1 0w
   -14400 B 1988 9 12 0w
   -14400 0 1993 9 28 0w
   -14400 B 1994 9 22 0w
   -14400 0
   = America/Martinique
   -14660 0 1890 1 1 0w
   -14660 0 1911 5 1 0w
   -14400 0 1980 4 6 0w
   -14400 3600 1980 9 28 0w
   -14400 0
   = America/Matamoros
   -23400 0 1922 1 1 21600u
   -21600 0 1988 1 1 0w
   -21600 u 1989 1 1 0w
   -21600 m 2010 1 1 0w
   -21600 u
   = America/Mazatlan
   -25540 0 1922 1 1 25200u
   -25200 0 1927 6 10 0w
   -21600 0 1930 11 15 0w
   -25200 m 1932 4 1 0w
   -21600 0 1942 4 24 0w
   -25200 0 1970 1 1 0w
   -25200 m
   = America/Menominee
   -21027 0 1885 9 18 43200w
   -21600 u 1946 1 1 0w
   -21600 Me 1969 4 27 7200w
   -18000 0 1973 4 29 7200w
   -21600 u
   = America/Merida
   -21508 0 1922 1 1 21600u
   -21600 0 1981 12 26 7200w
   -18000 0 1982 11 2 7200w
   -21600 m
   = America/Metlakatla
   54822 0 1867 10 19 56695w
   -31578 0 1900 8 20 43200w
   -28800 0 1942 1 1 0w
   -28800 u 1946 1 1 0w
   -28800 0 1969 1 1 0w
   -28800 u 1983 10 30 7200w
   -28800 0 2015 11 1 7200w
   -32400 u 2018 11 4 7200w
   -28800 0 2019 1 20 7200w
   -32400 u
   = America/Mexico_City
   -23796 0 1922 1 1 25200u
   -25200 0 1927 6 10 0w
   -21600 0 1930 11 15 0w
   -25200 m 1932 4 1 0w
   -21600 m 2001 9 30 7200w
   -21600 0 2002 2 20 0w
   -21600 m
   = America/Miquelon
   -13480 0 1911 6 15 0w
   -14400 0 1980 5 1 0w
   -10800 0 1987 1 1 0w
   -10800 C
   = America/Moncton
   -15548 0 1883 12 9 0w
   -18000 0 1902 6 15 0w
   -14400 C 1933 1 1 0w
   -14400 o 1942 1 1 0w
   -14400 C 1946 1 1 0w
   -14400 o 1973 1 1 0w
   -14400 C 1993 1 1 0w
   -14400 o 2007 1 1 0w
   -14400 C
   = America/Monterrey
   -24076 0 1922 1 1 21600u
   -25200 0 1927 6 10 0w
   -21600 0 1930 11 15 0w
   -25200 m 1932 4 1 0w
   -21600 0 1988 1 1 0w
   -21600 u 1989 1 1 0w
   -21600 m
   = America/Montevideo
   -13491 0 1908 6 10 0w
   -13491 0 1920 5 1 0w
   -14400 0 1923 10 1 0w
   -12600 U 1942 12 14 0w
   -10800 U 1960 1 1 0w
   -10800 U 1968 1 1 0w
   -10800 U 1970 1 1 0w
   -10800 U 1974 1 1 0w
   -10800 U 1974 3 10 0w
   -10800 U 1974 12 22 0w
   -10800 U
   = America/New_York
   -17762 0 1883 11 18 61200u
   -18000 u 1920 1 1 0w
   -18000 NY 1942 1 1 0w
   -18000 u 1946 1 1 0w
   -18000 NY 1967 1 1 0w
   -18000 u
   = America/Nome
   46702 0 1867 10 19 48575w
   -39698 0 1900 8 20 43200w
   -39600 0 1942 1 1 0w
   -39600 u 1946 1 1 0w
   -39600 0 1967 4 1 0w
   -39600 0 1969 1 1 0w
   -39600 u 1983 10 30 7200w
   -32400 u 1983 11 30 0w
   -32400 u
   = America/Noronha
   -7780 0 1914 1 1 0w
   -7200 B 1990 9 17 0w
   -7200 0 1999 9 30 0w
   -7200 B 2000 10 15 0w
   -7200 0 2001 9 13 0w
   -7200 B 2002 10 1 0w
   -7200 0
   = America/North_Dakota/Beulah
   -24427 0 1883 11 18 68400u
   -25200 u 2010 11 7 7200w
   -21600 u
   = America/North_Dakota/Center
   -24312 0 1883 11 18 68400u
   -25200 u 1992 10 25 7200w
   -21600 u
   = America/North_Dakota/New_Salem
   -24339 0 1883 11 18 68400u
   -25200 u 2003 10 26 7200w
   -21600 u
   = America/Nuuk
   -12416 0 1916 7 28 0w
   -10800 0 1980 4 6 7200w
   -10800 E 2023 3 26 3600u
   -7200 0 2023 10 29 3600u
   -7200 E
   = America/Ojinaga
   -25060 0 1922 1 1 25200u
   -25200 0 1927 6 10 0w
   -21600 0 1930 11 15 0w
   -25200 m 1932 4 1 0w
   -21600 0 1996 1 1 0w
   -21600 m 1998 1 1 0w
   -21600 0 1998 4 0>=1 10800w
   -25200 m 2010 1 1 0w
   -25200 u 2022 10 30 7200w
   -21600 0 2022 11 30 0w
   -21600 u
   = America/Panama
   -19088 0 1890 1 1 0w
   -19176 0 1908 4 22 0w
   -18000 0
   = America/Paramaribo
   -13240 0 1911 1 1 0w
   -13252 0 1935 1 1 0w
   -13236 0 1945 10 1 0w
   -12600 0 1984 10 1 0w
   -10800 0
   = America/Phoenix
   -26898 0 1883 11 18 68400u
   -25200 u 1944 1 1 60w
   -25200 0 1944 4 1 60w
   -25200 u 1944 10 1 60w
   -25200 0 1967 1 1 0w
   -25200 u 1968 3 21 0w
   -25200 0
   = America/Port-au-Prince
   -17360 0 1890 1 1 0w
   -17340 0 1917 1 24 43200w
   -18000 HT
   = America/Porto_Velho
   -15336 0 1914 1 1 0w
   -14400 B 1988 9 12 0w
   -14400 0
   = America/Puerto_Rico
   -15865 0 1899 3 28 43200w
   -14400 0 1942 5 3 0w
   -14400 u 1946 1 1 0w
   -14400 0
   = America/Punta_Arenas
   -17020 0 1890 1 1 0w
   -16965 0 1910 1 10 0w
   -18000 0 1916 7 1 0w
   -16965 0 1918 9 10 0w
   -14400 0 1919 7 1 0w
   -16965 0 1927 9 1 0w
   -18000 x 1932 9 1 0w
   -14400 0 1942 6 1 0w
   -18000 0 1942 8 1 0w
   -14400 0 1946 8 28 86400w
   -18000 3600 1947 3 31 86400w
   -18000 0 1947 5 21 82800w
   -14400 x 2016 12 4 0w
   -10800 0
   = America/Rankin_Inlet
   0 0 1957 1 1 0w
   -21600 Y 2000 10 29 7200w
   -18000 0 2001 4 1 10800w
   -21600 C
   = America/Recife
   -8376 0 1914 1 1 0w
   -10800 B 1990 9 17 0w
   -10800 0 1999 9 30 0w
   -10800 B 2000 10 15 0w
   -10800 0 2001 9 13 0w
   -10800 B 2002 10 1 0w
   -10800 0
   = America/Regina
   -25116 0 1905 9 1 0w
   -25200 r 1960 4 last0 7200w
   -21600 0
   = America/Resolute
   0 0 1947 8 31 0w
   -21600 Y 2000 10 29 7200w
   -18000 0 2001 4 1 10800w
   -21600 C 2006 10 29 7200w
   -18000 0 2007 3 11 10800w
   -21600 C
   = America/Rio_Branco
   -16272 0 1914 1 1 0w
   -18000 B 1988 9 12 0w
   -18000 0 2008 6 24 0w
   -14400 0 2013 11 10 0w
   -18000 0
   = America/Santarem
   -13128 0 1914 1 1 0w
   -14400 B 1988 9 12 0w
   -14400 0 2008 6 24 0w
   -10800 0
   = America/Santiago
   -16965 0 1890 1 1 0w
   -16965 0 1910 1 10 0w
   -18000 0 1916 7 1 0w
   -16965 0 1918 9 10 0w
   -14400 0 1919 7 1 0w
   -16965 0 1927 9 1 0w
   -18000 x 1932 9 1 0w
   -14400 0 1942 6 1 0w
   -18000 0 1942 8 1 0w
   -14400 0 1946 7 14 86400w
   -14400 3600 1946 8 28 86400w
   -18000 3600 1947 3 31 86400w
   -18000 0 1947 5 21 82800w
   -14400 x
   = America/Santo_Domingo
   -16776 0 1890 1 1 0w
   -16800 0 1933 4 1 43200w
   -18000 DO 1974 10 27 0w
   -14400 0 2000 10 29 7200w
   -18000 u 2000 12 3 3600w
   -14400 0
   = America/Sao_Paulo
   -11188 0 1914 1 1 0w
   -10800 B 1963 10 23 0w
   -10800 3600 1964 1 1 0w
   -10800 B
   = America/Scoresbysund
   -5272 0 1916 7 28 0w
   -7200 0 1980 4 6 7200w
   -7200 c 1981 3 29 0w
   -3600 E 2024 3 31 0w
   -7200 E
   = America/Sitka
   53927 0 1867 10 19 55800w
   -32473 0 1900 8 20 43200w
   -28800 0 1942 1 1 0w
   -28800 u 1946 1 1 0w
   -28800 0 1969 1 1 0w
   -28800 u 1983 10 30 7200w
   -32400 u 1983 11 30 0w
   -32400 u
   = America/St_Johns
   -12652 0 1884 1 1 0w
   -12652 j 1918 1 1 0w
   -12652 C 1919 1 1 0w
   -12652 j 1935 3 30 0w
   -12600 j 1942 5 11 0w
   -12600 C 1946 1 1 0w
   -12600 j 2011 11 1 0w
   -12600 C
   = America/Swift_Current
   -25880 0 1905 9 1 0w
   -25200 C 1946 4 last0 7200w
   -25200 r 1950 1 1 0w
   -25200 Sw 1972 4 last0 7200w
   -21600 0
   = America/Tegucigalpa
   -20932 0 1921 4 1 0w
   -21600 HN
   = America/Thule
   -16508 0 1916 7 28 0w
   -14400 Th
   = America/Tijuana
   -28084 0 1922 1 1 25200u
   -25200 0 1924 1 1 0w
   -28800 0 1927 6 10 0w
   -25200 0 1930 11 15 0w
   -28800 0 1931 4 1 0w
   -28800 3600 1931 9 30 0w
   -28800 0 1942 4 24 0w
   -28800 3600 1945 8 14 82800u
   -28800 3600 1945 11 15 0w
   -28800 0 1948 4 5 0w
   -28800 3600 1949 1 14 0w
   -28800 0 1950 5 1 0w
   -28800 3600 1950 9 24 0w
   -28800 0 1951 4 29 7200w
   -28800 3600 1951 9 30 7200w
   -28800 0 1952 4 27 7200w
   -28800 3600 1952 9 28 7200w
   -28800 CA 1967 1 1 0w
   -28800 u 1996 1 1 0w
   -28800 m 2001 1 1 0w
   -28800 u 2002 2 20 0w
   -28800 m 2010 1 1 0w
   -28800 u
   = America/Toronto
   -19052 0 1895 1 1 0w
   -18000 C 1919 1 1 0w
   -18000 t 1942 2 9 7200s
   -18000 C 1946 1 1 0w
   -18000 t 1974 1 1 0w
   -18000 C
   = America/Vancouver
   -29548 0 1884 1 1 0w
   -28800 Va 1987 1 1 0w
   -28800 C
   = America/Whitehorse
   -32412 0 1900 8 20 0w
   -32400 Y 1965 1 1 0w
   -32400 Yu 1966 2 27 0w
   -28800 0 1980 1 1 0w
   -28800 C 2020 11 1 0w
   -25200 0
   = America/Winnipeg
   -23316 0 1887 7 16 0w
   -21600 W 2006 1 1 0w
   -21600 C
   = America/Yakutat
   52865 0 1867 10 19 54738w
   -33535 0 1900 8 20 43200w
   -32400 0 1942 1 1 0w
   -32400 u 1946 1 1 0w
   -32400 0 1969 1 1 0w
   -32400 u 1983 11 30 0w
   -32400 u
   = Antarctica/Casey
   0 0 1969 1 1 0w
   28800 0 2009 10 18 7200w
   39600 0 2010 3 5 7200w
   28800 0 2011 10 28 7200w
   39600 0 2012 2 21 61200u
   28800 0 2016 10 22 0w
   39600 0 2018 3 11 14400w
   28800 0 2018 10 7 14400w
   39600 0 2019 3 17 10800w
   28800 0 2019 10 4 10800w
   39600 0 2020 3 8 10800w
   28800 0 2020 10 4 60w
   39600 0 2021 3 14 0w
   28800 0 2021 10 3 60w
   39600 0 2022 3 13 0w
   28800 0 2022 10 2 60w
   39600 0 2023 3 9 10800w
   28800 0
   = Antarctica/Davis
   0 0 1957 1 13 0w
   25200 0 1964 11 1 0w
   0 0 1969 2 1 0w
   25200 0 2009 10 18 7200w
   18000 0 2010 3 10 72000u
   25200 0 2011 10 28 7200w
   18000 0 2012 2 21 72000u
   25200 0
   = Antarctica/Macquarie
   0 0 1899 11 1 0w
   36000 0 1916 10 1 7200w
   36000 3600 1917 2 1 0w
   36000 AU 1919 4 1 0s
   0 0 1948 3 25 0w
   36000 AU 1967 1 1 0w
   36000 AT 2010 1 1 0w
   36000 3600 2011 1 1 0w
   36000 AT
   = Antarctica/Mawson
   0 0 1954 2 13 0w
   21600 0 2009 10 18 7200w
   18000 0
   = Antarctica/Palmer
   0 0 1965 1 1 0w
   -14400 A 1969 10 5 0w
   -10800 A 1982 5 1 0w
   -14400 x 2016 12 4 0w
   -10800 0
   = Antarctica/Rothera
   0 0 1976 12 1 0w
   -10800 0
   = Antarctica/Troll
   0 0 2005 2 12 0w
   0 Tr
   = Antarctica/Vostok
   0 0 1957 12 16 0w
   25200 0 1994 2 1 0w
   0 0 1994 11 1 0w
   25200 0 2023 12 18 7200w
   18000 0
   = Asia/Almaty
   18468 0 1924 5 2 0w
   18000 0 1930 6 21 0w
   21600 R 1991 3 31 7200s
   18000 R 1992 1 19 7200s
   21600 R 2004 10 31 7200s
   21600 0 2024 3 1 0w
   18000 0
   = Asia/Amman
   8624 0 1931 1 1 0w
   7200 J 2022 10 28 0s
   10800 0
   = Asia/Anadyr
   42596 0 1924 5 2 0w
   43200 0 1930 6 21 0w
   46800 R 1982 4 1 0s
   43200 R 1991 3 31 7200s
   39600 R 1992 1 19 7200s
   43200 R 2010 3 28 7200s
   39600 R 2011 3 27 7200s
   43200 0
   = Asia/Aqtau
   12064 0 1924 5 2 0w
   14400 0 1930 6 21 0w
   18000 0 1981 10 1 0w
   21600 0 1982 4 1 0w
   18000 R 1991 3 31 7200s
   14400 R 1992 1 19 7200s
   18000 R 1994 9 25 7200s
   14400 R 2004 10 31 7200s
   18000 0
   = Asia/Aqtobe
   13720 0 1924 5 2 0w
   14400 0 1930 6 21 0w
   18000 0 1981 4 1 0w
   18000 3600 1981 10 1 0w
   21600 0 1982 4 1 0w
   18000 R 1991 3 31 7200s
   14400 R 1992 1 19 7200s
   18000 R 2004 10 31 7200s
   18000 0
   = Asia/Ashgabat
   14012 0 1924 5 2 0w
   14400 0 1930 6 21 0w
   18000 R 1991 3 31 7200w
   14400 R 1992 1 19 7200w
   18000 0
   = Asia/Atyrau
   12464 0 1924 5 2 0w
   10800 0 1930 6 21 0w
   18000 0 1981 10 1 0w
   21600 0 1982 4 1 0w
   18000 R 1991 3 31 7200s
   14400 R 1992 1 19 7200s
   18000 R 1999 3 28 7200s
   14400 R 2004 10 31 7200s
   18000 0
   = Asia/Baghdad
   10660 0 1890 1 1 0w
   10656 0 1918 1 1 0w
   10800 0 1982 5 1 0w
   10800 IQ
   = Asia/Baku
   11964 0 1924 5 2 0w
   10800 0 1957 3 1 0w
   14400 R 1991 3 31 7200s
   10800 R 1992 9 last0 7200s
   14400 0 1996 1 1 0w
   14400 E 1997 1 1 0w
   14400 AZ
   = Asia/Bangkok
   24124 0 1880 1 1 0w
   24124 0 1920 4 1 0w
   25200 0
   = Asia/Barnaul
   20100 0 1919 12 10 0w
   21600 0 1930 6 21 0w
   25200 R 1991 3 31 7200s
   21600 R 1992 1 19 7200s
   25200 R 1995 5 28 0w
   21600 R 2011 3 27 7200s
   25200 0 2014 10 26 7200s
   21600 0 2016 3 27 7200s
   25200 0
   = Asia/Beirut
   8520 0 1880 1 1 0w
   7200 l
   = Asia/Bishkek
   17904 0 1924 5 2 0w
   18000 0 1930 6 21 0w
   21600 R 1991 3 31 7200s
   18000 R 1991 8 31 7200w
   18000 KG 2005 8 12 0w
   21600 0
   = Asia/Chita
   27232 0 1919 12 15 0w
   28800 0 1930 6 21 0w
   32400 R 1991 3 31 7200s
   28800 R 1992 1 19 7200s
   32400 R 2011 3 27 7200s
   36000 0 2014 10 26 7200s
   28800 0 2016 3 27 7200w
   32400 0
   = Asia/Colombo
   19164 0 1880 1 1 0w
   19172 0 1906 1 1 0w
   19800 0 1942 1 5 0w
   19800 1800 1942 9 1 0w
   19800 3600 1945 10 16 7200w
   19800 0 1996 5 25 0w
   23400 0 1996 10 26 1800w
   21600 0 2006 4 15 1800w
   19800 0
   = Asia/Damascus
   8712 0 1920 1 1 0w
   7200 S 2022 10 28 0w
   10800 0
   = Asia/Dhaka
   21700 0 1890 1 1 0w
   21200 0 1941 10 1 0w
   23400 0 1942 5 15 0w
   19800 0 1942 9 1 0w
   23400 0 1951 9 30 0w
   21600 0 2009 1 1 0w
   21600 BD
   = Asia/Dili
   30140 0 1911 12 31 57600u
   28800 0 1942 2 21 82800w
   32400 0 1976 5 3 0w
   28800 0 2000 9 17 0w
   32400 0
   = Asia/Dubai
   13272 0 1920 1 1 0w
   14400 0
   = Asia/Dushanbe
   16512 0 1924 5 2 0w
   18000 0 1930 6 21 0w
   21600 R 1991 3 31 7200s
   18000 3600 1991 9 9 7200s
   18000 0
   = Asia/Famagusta
   8148 0 1921 11 14 0w
   7200 CY 1998 9 1 0w
   7200 E 2016 9 8 0w
   10800 0 2017 10 29 3600u
   7200 E
   = Asia/Gaza
   8272 0 1900 10 1 0w
   7200 Z 1948 5 15 0w
   7200 K 1967 6 5 0w
   7200 Z 1996 1 1 0w
   7200 J 1999 1 1 0w
   7200 P 2008 8 29 0w
   7200 0 2008 9 1 0w
   7200 P 2010 1 1 0w
   7200 0 2010 3 27 60w
   7200 P 2011 8 1 0w
   7200 0 2012 1 1 0w
   7200 P
   = Asia/Hebron
   8423 0 1900 10 1 0w
   7200 Z 1948 5 15 0w
   7200 K 1967 6 5 0w
   7200 Z 1996 1 1 0w
   7200 J 1999 1 1 0w
   7200 P
   = Asia/Ho_Chi_Minh
   25590 0 1906 7 1 0w
   25590 0 1911 5 1 0w
   25200 0 1942 12 31 82800w
   28800 0 1945 3 14 82800w
   32400 0 1945 9 1 86400w
   25200 0 1947 4 1 0w
   28800 0 1955 7 1 3600w
   25200 0 1959 12 31 82800w
   28800 0 1975 6 13 0w
   25200 0
   = Asia/Hong_Kong
   27402 0 1904 10 29 61200u
   28800 0 1941 6 15 10800w
   28800 3600 1941 10 1 14400w
   28800 1800 1941 12 25 0w
   32400 0 1945 11 18 7200w
   28800 HK
   = Asia/Hovd
   21996 0 1905 8 1 0w
   21600 0 1978 1 1 0w
   25200 X
   = Asia/Irkutsk
   25025 0 1880 1 1 0w
   25025 0 1920 1 25 0w
   25200 0 1930 6 21 0w
   28800 R 1991 3 31 7200s
   25200 R 1992 1 19 7200s
   28800 R 2011 3 27 7200s
   32400 0 2014 10 26 7200s
   28800 0
   = Asia/Jakarta
   25632 0 1867 8 10 0w
   25632 0 1923 12 31 60000u
   26400 0 1932 11 1 0w
   27000 0 1942 3 23 0w
   32400 0 1945 9 23 0w
   27000 0 1948 5 1 0w
   28800 0 1950 5 1 0w
   27000 0 1964 1 1 0w
   25200 0
   = Asia/Jayapura
   33768 0 1932 11 1 0w
   32400 0 1944 9 1 0w
   34200 0 1964 1 1 0w
   32400 0
   = Asia/Jerusalem
   8454 0 1880 1 1 0w
   8440 0 1918 1 1 0w
   7200 Z
   = Asia/Kabul
   16608 0 1890 1 1 0w
   14400 0 1945 1 1 0w
   16200 0
   = Asia/Kamchatka
   38076 0 1922 11 10 0w
   39600 0 1930 6 21 0w
   43200 R 1991 3 31 7200s
   39600 R 1992 1 19 7200s
   43200 R 2010 3 28 7200s
   39600 R 2011 3 27 7200s
   43200 0
   = Asia/Karachi
   16092 0 1907 1 1 0w
   19800 0 1942 9 1 0w
   19800 3600 1945 10 15 0w
   19800 0 1951 9 30 0w
   18000 0 1971 3 26 0w
   18000 PK
   = Asia/Kathmandu
   20476 0 1920 1 1 0w
   19800 0 1986 1 1 0w
   20700 0
   = Asia/Khandyga
   32533 0 1919 12 15 0w
   28800 0 1930 6 21 0w
   32400 R 1991 3 31 7200s
   28800 R 1992 1 19 7200s
   32400 R 2004 1 1 0w
   36000 R 2011 3 27 7200s
   39600 0 2011 9 13 0s
   36000 0 2014 10 26 7200s
   32400 0
   = Asia/Kolkata
   21208 0 1854 6 28 0w
   21200 0 1870 1 1 0w
   19270 0 1906 1 1 0w
   19800 0 1941 10 1 0w
   19800 3600 1942 5 15 0w
   19800 0 1942 9 1 0w
   19800 3600 1945 10 15 0w
   19800 0
   = Asia/Krasnoyarsk
   22286 0 1920 1 6 0w
   21600 0 1930 6 21 0w
   25200 R 1991 3 31 7200s
   21600 R 1992 1 19 7200s
   25200 R 2011 3 27 7200s
   28800 0 2014 10 26 7200s
   25200 0
   = Asia/Kuching
   26480 0 1926 3 1 0w
   27000 0 1933 1 1 0w
   28800 NB 1942 2 16 0w
   32400 0 1945 9 12 0w
   28800 0
   = Asia/Macau
   27250 0 1904 10 30 0w
   28800 0 1941 12 21 82800w
   32400 _ 1945 9 30 86400w
   28800 _
   = Asia/Magadan
   36192 0 1924 5 2 0w
   36000 0 1930 6 21 0w
   39600 R 1991 3 31 7200s
   36000 R 1992 1 19 7200s
   39600 R 2011 3 27 7200s
   43200 0 2014 10 26 7200s
   36000 0 2016 4 24 7200s
   39600 0
   = Asia/Makassar
   28656 0 1920 1 1 0w
   28656 0 1932 11 1 0w
   28800 0 1942 2 9 0w
   32400 0 1945 9 23 0w
   28800 0
   = Asia/Manila
   -57368 0 1844 12 31 0w
   29032 0 1899 9 6 14400u
   28800 PH 1942 2 11 86400w
   32400 0 1945 3 4 0w
   28800 PH
   = Asia/Nicosia
   8008 0 1921 11 14 0w
   7200 CY 1998 9 1 0w
   7200 E
   = Asia/Novokuznetsk
   20928 0 1924 5 1 0w
   21600 0 1930 6 21 0w
   25200 R 1991 3 31 7200s
   21600 R 1992 1 19 7200s
   25200 R 2010 3 28 7200s
   21600 R 2011 3 27 7200s
   25200 0
   = Asia/Novosibirsk
   19900 0 1919 12 14 21600w
   21600 0 1930 6 21 0w
   25200 R 1991 3 31 7200s
   21600 R 1992 1 19 7200s
   25200 R 1993 5 23 0w
   21600 R 2011 3 27 7200s
   25200 0 2014 10 26 7200s
   21600 0 2016 7 24 7200s
   25200 0
   = Asia/Omsk
   17610 0 1919 11 14 0w
   18000 0 1930 6 21 0w
   21600 R 1991 3 31 7200s
   18000 R 1992 1 19 7200s
   21600 R 2011 3 27 7200s
   25200 0 2014 10 26 7200s
   21600 0
   = Asia/Oral
   12324 0 1924 5 2 0w
   10800 0 1930 6 21 0w
   18000 0 1981 4 1 0w
   18000 3600 1981 10 1 0w
   21600 0 1982 4 1 0w
   18000 R 1989 3 26 7200s
   14400 R 1992 1 19 7200s
   18000 R 1992 3 29 7200s
   14400 R 2004 10 31 7200s
   18000 0
   = Asia/Pontianak
   26240 0 1908 5 1 0w
   26240 0 1932 11 1 0w
   27000 0 1942 1 29 0w
   32400 0 1945 9 23 0w
   27000 0 1948 5 1 0w
   28800 0 1950 5 1 0w
   27000 0 1964 1 1 0w
   28800 0 1988 1 1 0w
   25200 0
   = Asia/Pyongyang
   30180 0 1908 4 1 0w
   30600 0 1912 1 1 0w
   32400 0 1945 8 24 0w
   32400 0 2015 8 15 0w
   30600 0 2018 5 4 84600w
   32400 0
   = Asia/Qatar
   12368 0 1920 1 1 0w
   14400 0 1972 6 1 0w
   10800 0
   = Asia/Qostanay
   15268 0 1924 5 2 0w
   14400 0 1930 6 21 0w
   18000 0 1981 4 1 0w
   18000 3600 1981 10 1 0w
   21600 0 1982 4 1 0w
   18000 R 1991 3 31 7200s
   14400 R 1992 1 19 7200s
   18000 R 2004 10 31 7200s
   21600 0 2024 3 1 0w
   18000 0
   = Asia/Qyzylorda
   15712 0 1924 5 2 0w
   14400 0 1930 6 21 0w
   18000 0 1981 4 1 0w
   18000 3600 1981 10 1 0w
   21600 0 1982 4 1 0w
   18000 R 1991 3 31 7200s
   14400 R 1991 9 29 7200s
   18000 R 1992 1 19 7200s
   21600 R 1992 3 29 7200s
   18000 R 2004 10 31 7200s
   21600 0 2018 12 21 0w
   18000 0
   = Asia/Riyadh
   11212 0 1947 3 14 0w
   10800 0
   = Asia/Sakhalin
   34248 0 1905 8 23 0w
   32400 0 1945 8 25 0w
   39600 R 1991 3 31 7200s
   36000 R 1992 1 19 7200s
   39600 R 1997 3 last0 7200s
   36000 R 2011 3 27 7200s
   39600 0 2014 10 26 7200s
   36000 0 2016 3 27 7200s
   39600 0
   = Asia/Samarkand
   16073 0 1924 5 2 0w
   14400 0 1930 6 21 0w
   18000 0 1981 4 1 0w
   18000 3600 1981 10 1 0w
   21600 0 1982 4 1 0w
   18000 R 1992 1 1 0w
   18000 0
   = Asia/Seoul
   30472 0 1908 4 1 0w
   30600 0 1912 1 1 0w
   32400 0 1945 9 8 0w
   32400 KR 1954 3 21 0w
   30600 KR 1961 8 10 0w
   32400 KR
   = Asia/Shanghai
   29143 0 1901 1 1 0w
   28800 Sh 1949 5 28 0w
   28800 CN
   = Asia/Singapore
   24925 0 1901 1 1 0w
   24925 0 1905 6 1 0w
   25200 0 1933 1 1 0w
   25200 1200 1936 1 1 0w
   26400 0 1941 9 1 0w
   27000 0 1942 2 16 0w
   32400 0 1945 9 12 0w
   27000 0 1981 12 31 57600u
   28800 0
   = Asia/Srednekolymsk
   36892 0 1924 5 2 0w
   36000 0 1930 6 21 0w
   39600 R 1991 3 31 7200s
   36000 R 1992 1 19 7200s
   39600 R 2011 3 27 7200s
   43200 0 2014 10 26 7200s
   39600 0
   = Asia/Taipei
   29160 0 1896 1 1 0w
   28800 0 1937 10 1 0w
   32400 0 1945 9 21 3600w
   28800 f
   = Asia/Tashkent
   16631 0 1924 5 2 0w
   18000 0 1930 6 21 0w
   21600 R 1991 3 31 7200w
   18000 R 1992 1 1 0w
   18000 0
   = Asia/Tbilisi
   10751 0 1880 1 1 0w
   10751 0 1924 5 2 0w
   10800 0 1957 3 1 0w
   14400 R 1991 3 31 7200s
   10800 R 1992 1 1 0w
   10800 e 1994 9 last0 0w
   14400 e 1996 10 last0 0w
   14400 3600 1997 3 last0 0w
   14400 e 2004 6 27 0w
   10800 R 2005 3 last0 7200w
   14400 0
   = Asia/Tehran
   12344 0 1916 1 1 0w
   12344 0 1935 6 13 0w
   12600 i 1977 10 20 86400w
   14400 i 1978 11 10 86400w
   12600 i
   = Asia/Thimphu
   21516 0 1947 8 15 0w
   19800 0 1987 10 1 0w
   21600 0
   = Asia/Tokyo
   33539 0 1887 12 31 54000u
   32400 JP
   = Asia/Tomsk
   20391 0 1919 12 22 0w
   21600 0 1930 6 21 0w
   25200 R 1991 3 31 7200s
   21600 R 1992 1 19 7200s
   25200 R 2002 5 1 10800w
   21600 R 2011 3 27 7200s
   25200 0 2014 10 26 7200s
   21600 0 2016 5 29 7200s
   25200 0
   = Asia/Ulaanbaatar
   25652 0 1905 8 1 0w
   25200 0 1978 1 1 0w
   28800 X
   = Asia/Urumqi
   21020 0 1928 1 1 0w
   21600 0
   = Asia/Ust-Nera
   34374 0 1919 12 15 0w
   28800 0 1930 6 21 0w
   32400 R 1981 4 1 0w
   39600 R 1991 3 31 7200s
   36000 R 1992 1 19 7200s
   39600 R 2011 3 27 7200s
   43200 0 2011 9 13 0s
   39600 0 2014 10 26 7200s
   36000 0
   = Asia/Vladivostok
   31651 0 1922 11 15 0w
   32400 0 1930 6 21 0w
   36000 R 1991 3 31 7200s
   32400 R 1992 1 19 7200s
   36000 R 2011 3 27 7200s
   39600 0 2014 10 26 7200s
   36000 0
   = Asia/Yakutsk
   31138 0 1919 12 15 0w
   28800 0 1930 6 21 0w
   32400 R 1991 3 31 7200s
   28800 R 1992 1 19 7200s
   32400 R 2011 3 27 7200s
   36000 0 2014 10 26 7200s
   32400 0
   = Asia/Yangon
   23087 0 1880 1 1 0w
   23087 0 1920 1 1 0w
   23400 0 1942 5 1 0w
   32400 0 1945 5 3 0w
   23400 0
   = Asia/Yekaterinburg
   14553 0 1916 7 3 0w
   13505 0 1919 7 15 14400w
   14400 0 1930 6 21 0w
   18000 R 1991 3 31 7200s
   14400 R 1992 1 19 7200s
   18000 R 2011 3 27 7200s
   21600 0 2014 10 26 7200s
   18000 0
   = Asia/Yerevan
   10680 0 1924 5 2 0w
   10800 0 1957 3 1 0w
   14400 R 1991 3 31 7200s
   10800 R 1995 9 24 7200s
   14400 0 1997 1 1 0w
   14400 R 2011 1 1 0w
   14400 AM
   = Atlantic/Azores
   -6160 0 1884 1 1 0w
   -6872 0 1912 1 1 7200u
   -7200 p 1942 4 25 79200s
   -7200 p 1942 8 15 79200s
   -7200 p 1943 4 17 79200s
   -7200 p 1943 8 28 79200s
   -7200 p 1944 4 22 79200s
   -7200 p 1944 8 26 79200s
   -7200 p 1945 4 21 79200s
   -7200 p 1945 8 25 79200s
   -7200 p 1966 10 2 7200s
   -3600 0 1982 3 28 0s
   -3600 p 1986 1 1 0w
   -3600 E 1992 12 27 3600s
   0 E 1993 6 17 3600u
   -3600 E
   = Atlantic/Bermuda
   -15558 0 1890 1 1 0w
   -15558 Be 1930 1 1 7200w
   -14400 Be 1974 4 28 7200w
   -14400 C 1976 1 1 0w
   -14400 u
   = Atlantic/Canary
   -3696 0 1922 3 1 0w
   -3600 0 1946 9 30 3600w
   0 0 1980 4 6 0s
   0 3600 1980 9 28 3600u
   0 E
   = Atlantic/Cape_Verde
   -5644 0 1912 1 1 7200u
   -7200 0 1942 9 1 0w
   -7200 3600 1945 10 15 0w
   -7200 0 1975 11 25 7200w
   -3600 0
   = Atlantic/Faroe
   -1624 0 1908 1 11 0w
   0 0 1981 1 1 0w
   0 E
   = Atlantic/Madeira
   -4056 0 1884 1 1 0w
   -4056 0 1912 1 1 3600u
   -3600 p 1942 4 25 79200s
   -3600 p 1942 8 15 79200s
   -3600 p 1943 4 17 79200s
   -3600 p 1943 8 28 79200s
   -3600 p 1944 4 22 79200s
   -3600 p 1944 8 26 79200s
   -3600 p 1945 4 21 79200s
   -3600 p 1945 8 25 79200s
   -3600 p 1966 10 2 7200s
   0 0 1982 4 4 0w
   0 p 1986 7 31 0w
   0 E
   = Atlantic/South_Georgia
   -8768 0 1890 1 1 0w
   -7200 0
   = Atlantic/Stanley
   -13884 0 1890 1 1 0w
   -13884 0 1912 3 12 0w
   -14400 FK 1983 5 1 0w
   -10800 FK 1985 9 15 0w
   -14400 FK 2010 9 5 7200w
   -10800 0
   = Australia/Adelaide
   33260 0 1895 2 1 0w
   32400 0 1899 5 1 0w
   34200 AU 1971 1 1 0w
   34200 AS
   = Australia/Brisbane
   36728 0 1895 1 1 0w
   36000 AU 1971 1 1 0w
   36000 AQ
   = Australia/Broken_Hill
   33948 0 1895 2 1 0w
   36000 0 1896 8 23 0w
   32400 0 1899 5 1 0w
   34200 AU 1971 1 1 0w
   34200 AN 2000 1 1 0w
   34200 AS
   = Australia/Darwin
   31400 0 1895 2 1 0w
   32400 0 1899 5 1 0w
   34200 AU
   = Australia/Eucla
   30928 0 1895 12 1 0w
   31500 AU 1943 7 1 0w
   31500 AW
   = Australia/Hobart
   35356 0 1895 9 1 0w
   36000 AT 1919 10 24 0w
   36000 AU 1967 1 1 0w
   36000 AT
   = Australia/Lindeman
   35756 0 1895 1 1 0w
   36000 AU 1971 1 1 0w
   36000 AQ 1992 7 1 0w
   36000 Ho
   = Australia/Lord_Howe
   38180 0 1895 2 1 0w
   36000 0 1981 3 1 0w
   37800 LH 1985 7 1 0w
   37800 LH
   = Australia/Melbourne
   34792 0 1895 2 1 0w
   36000 AU 1971 1 1 0w
   36000 AV
   = Australia/Perth
   27804 0 1895 12 1 0w
   28800 AU 1943 7 1 0w
   28800 AW
   = Australia/Sydney
   36292 0 1895 2 1 0w
   36000 AU 1971 1 1 0w
   36000 AN
   = Etc/GMT
   0 0
   = Etc/GMT+1
   -3600 0
   = Etc/GMT+10
   -36000 0
   = Etc/GMT+11
   -39600 0
   = Etc/GMT+12
   -43200 0
   = Etc/GMT+2
   -7200 0
   = Etc/GMT+3
   -10800 0
   = Etc/GMT+4
   -14400 0
   = Etc/GMT+5
   -18000 0
   = Etc/GMT+6
   -21600 0
   = Etc/GMT+7
   -25200 0
   = Etc/GMT+8
   -28800 0
   = Etc/GMT+9
   -32400 0
   = Etc/GMT-1
   3600 0
   = Etc/GMT-10
   36000 0
   = Etc/GMT-11
   39600 0
   = Etc/GMT-12
   43200 0
   = Etc/GMT-13
   46800 0
   = Etc/GMT-14
   50400 0
   = Etc/GMT-2
   7200 0
   = Etc/GMT-3
   10800 0
   = Etc/GMT-4
   14400 0
   = Etc/GMT-5
   18000 0
   = Etc/GMT-6
   21600 0
   = Etc/GMT-7
   25200 0
   = Etc/GMT-8
   28800 0
   = Etc/GMT-9
   32400 0
   = Etc/UTC
   0 0
   = Europe/Andorra
   364 0 1901 1 1 0w
   0 0 1946 9 30 0w
   3600 0 1985 3 31 7200w
   3600 E
   = Europe/Astrakhan
   11532 0 1924 5 1 0w
   10800 0 1930 6 21 0w
   14400 R 1989 3 26 7200s
   10800 R 1991 3 31 7200s
   14400 0 1992 3 29 7200s
   10800 R 2011 3 27 7200s
   14400 0 2014 10 26 7200s
   10800 0 2016 3 27 7200s
   14400 0
   = Europe/Athens
   5692 0 1895 9 14 0w
   5692 0 1916 7 28 60w
   7200 g 1941 4 30 0w
   3600 g 1944 4 4 0w
   7200 g 1981 1 1 0w
   7200 E
   = Europe/Belgrade
   4920 0 1884 1 1 0w
   3600 0 1941 4 18 82800w
   3600 c 1945 1 1 0w
   3600 0 1945 5 8 7200s
   3600 3600 1945 9 16 7200s
   3600 0 1982 11 27 0w
   3600 E
   = Europe/Berlin
   3208 0 1893 4 1 0w
   3600 c 1945 5 24 7200w
   3600 So 1946 1 1 0w
   3600 DE 1980 1 1 0w
   3600 E
   = Europe/Brussels
   1050 0 1880 1 1 0w
   1050 0 1892 5 1 1050w
   0 0 1914 11 8 0w
   3600 0 1916 5 1 0w
   3600 c 1918 11 11 39600u
   0 b 1940 5 20 7200s
   3600 c 1944 9 3 0w
   3600 b 1977 1 1 0w
   3600 E
   = Europe/Bucharest
   6264 0 1891 10 1 0w
   6264 0 1931 7 24 0w
   7200 z 1981 3 29 7200s
   7200 c 1991 1 1 0w
   7200 z 1994 1 1 0w
   7200 e 1997 1 1 0w
   7200 E
   = Europe/Budapest
   4580 0 1890 11 1 0w
   3600 c 1918 1 1 0w
   3600 h 1941 4 7 82800w
   3600 c 1945 1 1 0w
   3600 h 1984 1 1 0w
   3600 E
   = Europe/Chisinau
   6920 0 1880 1 1 0w
   6900 0 1918 2 15 0w
   6264 0 1931 7 24 0w
   7200 z 1940 8 15 0w
   7200 3600 1941 7 17 0w
   3600 c 1944 8 24 0w
   10800 R 1990 5 6 7200w
   7200 R 1992 1 1 0w
   7200 e 1997 1 1 0w
   7200 MD 2022 1 1 0w
   7200 E
   = Europe/Dublin
   -1521 0 1880 8 2 0w
   -1521 0 1916 5 21 7200s
   -1521 3600 1916 10 1 7200s
   0 G 1921 12 6 0w
   0 G 1940 2 25 7200s
   0 3600 1946 10 6 7200s
   0 0 1947 3 16 7200s
   0 3600 1947 11 2 7200s
   0 0 1948 4 18 7200s
   0 G 1968 10 27 0w
   3600 0 1971 10 31 7200u
   0 G 1996 1 1 0w
   0 E
   = Europe/Gibraltar
   -1284 0 1880 8 2 0w
   0 G 1957 4 14 7200w
   3600 0 1982 1 1 0w
   3600 E
   = Europe/Helsinki
   5989 0 1878 5 31 0w
   5989 0 1921 5 1 0w
   7200 FI 1983 1 1 0w
   7200 E
   = Europe/Istanbul
   6952 0 1880 1 1 0w
   7016 0 1910 10 1 0w
   7200 T 1978 6 29 0w
   10800 T 1984 11 1 7200w
   7200 T 2007 1 1 0w
   7200 E 2011 3 27 3600u
   7200 0 2011 3 28 3600u
   7200 E 2014 3 30 3600u
   7200 0 2014 3 31 3600u
   7200 E 2015 10 25 3600u
   7200 3600 2015 11 8 3600u
   7200 E 2016 9 7 0w
   10800 0
   = Europe/Kaliningrad
   4920 0 1893 4 1 0w
   3600 c 1945 4 10 0w
   7200 O 1946 4 7 0w
   10800 R 1989 3 26 7200s
   7200 R 2011 3 27 7200s
   10800 0 2014 10 26 7200s
   7200 0
   = Europe/Kirov
   11928 0 1919 7 1 0u
   10800 0 1930 6 21 0w
   14400 R 1989 3 26 7200s
   10800 R 1991 3 31 7200s
   14400 0 1992 3 29 7200s
   10800 R 2011 3 27 7200s
   14400 0 2014 10 26 7200s
   10800 0
   = Europe/Kyiv
   7324 0 1880 1 1 0w
   7324 0 1924 5 2 0w
   7200 0 1930 6 21 0w
   10800 0 1941 9 20 0w
   3600 c 1943 11 6 0w
   10800 R 1990 7 1 7200w
   7200 3600 1991 9 29 10800w
   7200 c 1996 5 13 0w
   7200 E
   = Europe/Lisbon
   -2205 0 1884 1 1 0w
   -2205 0 1912 1 1 0u
   0 p 1966 10 2 7200s
   3600 0 1976 9 26 3600w
   0 p 1986 1 1 0w
   0 E 1992 9 27 3600u
   3600 E 1996 3 31 3600u
   0 E
   = Europe/London
   -75 0 1847 12 1 0w
   0 G 1968 10 27 0w
   3600 0 1971 10 31 7200u
   0 G 1996 1 1 0w
   0 E
   = Europe/Madrid
   -884 0 1901 1 1 0u
   0 s 1940 3 16 82800w
   3600 s 1979 1 1 0w
   3600 E
   = Europe/Malta
   3484 0 1893 11 2 0w
   3600 I 1973 3 31 0w
   3600 MT 1981 1 1 0w
   3600 E
   = Europe/Minsk
   6616 0 1880 1 1 0w
   6600 0 1924 5 2 0w
   7200 0 1930 6 21 0w
   10800 0 1941 6 28 0w
   3600 c 1944 7 3 0w
   10800 R 1990 1 1 0w
   10800 0 1991 3 31 7200s
   7200 R 2011 3 27 7200s
   10800 0
   = Europe/Moscow
   9017 0 1880 1 1 0w
   9017 0 1916 7 3 0w
   9079 R 1919 7 1 0u
   10800 R 1921 10 1 0w
   10800 R 1922 10 1 0w
   7200 0 1930 6 21 0w
   10800 R 1991 3 31 7200s
   7200 R 1992 1 19 7200s
   10800 R 2011 3 27 7200s
   14400 0 2014 10 26 7200s
   10800 0
   = Europe/Paris
   561 0 1891 3 16 0w
   561 0 1911 3 11 0w
   0 F 1940 6 14 82800w
   3600 c 1944 8 25 0w
   0 F 1945 9 16 10800w
   3600 F 1977 1 1 0w
   3600 E
   = Europe/Prague
   3464 0 1850 1 1 0w
   3464 0 1891 10 1 0w
   3600 c 1945 5 9 0w
   3600 CZ 1946 12 1 10800w
   0 0 1947 2 23 7200w
   3600 CZ 1979 1 1 0w
   3600 E
   = Europe/Riga
   5794 0 1880 1 1 0w
   5794 0 1918 4 15 7200w
   5794 3600 1918 9 16 10800w
   5794 0 1919 4 1 7200w
   5794 3600 1919 5 22 10800w
   5794 0 1926 5 11 0w
   7200 0 1940 8 5 0w
   10800 0 1941 7 1 0w
   3600 c 1944 10 13 0w
   10800 R 1989 3 last0 7200s
   7200 3600 1989 9 last0 7200s
   7200 LV 1997 1 21 0w
   7200 E 2000 2 29 0w
   7200 0 2001 1 2 0w
   7200 E
   = Europe/Rome
   2996 0 1866 12 12 0w
   2996 0 1893 10 31 82800u
   3600 I 1943 9 10 0w
   3600 c 1944 6 4 0w
   3600 I 1980 1 1 0w
   3600 E
   = Europe/Samara
   12020 0 1919 7 1 0u
   10800 0 1930 6 21 0w
   14400 0 1935 1 27 0w
   14400 R 1989 3 26 7200s
   10800 R 1991 3 31 7200s
   7200 R 1991 9 29 7200s
   10800 0 1991 10 20 10800w
   14400 R 2010 3 28 7200s
   10800 R 2011 3 27 7200s
   14400 0
   = Europe/Saratov
   11058 0 1919 7 1 0u
   10800 0 1930 6 21 0w
   14400 R 1988 3 27 7200s
   10800 R 1991 3 31 7200s
   14400 0 1992 3 29 7200s
   10800 R 2011 3 27 7200s
   14400 0 2014 10 26 7200s
   10800 0 2016 12 4 7200s
   14400 0
   = Europe/Simferopol
   8184 0 1880 1 1 0w
   8160 0 1924 5 2 0w
   7200 0 1930 6 21 0w
   10800 0 1941 11 1 0w
   3600 c 1944 4 13 0w
   10800 R 1990 1 1 0w
   10800 0 1990 7 1 7200w
   7200 0 1992 3 20 0w
   7200 c 1994 5 1 0w
   10800 c 1996 3 31 0s
   10800 3600 1996 10 27 10800s
   10800 0 1997 3 last0 3600u
   7200 E 2014 3 30 7200w
   14400 0 2014 10 26 7200s
   10800 0
   = Europe/Sofia
   5596 0 1880 1 1 0w
   7016 0 1894 11 30 0w
   7200 0 1942 11 2 10800w
   3600 c 1945 1 1 0w
   3600 0 1945 4 2 10800w
   7200 0 1979 3 31 82800w
   7200 BG 1982 9 26 10800w
   7200 c 1991 1 1 0w
   7200 e 1997 1 1 0w
   7200 E
   = Europe/Tallinn
   5940 0 1880 1 1 0w
   5940 0 1918 2 1 0w
   3600 c 1919 7 1 0w
   5940 0 1921 5 1 0w
   7200 0 1940 8 6 0w
   10800 0 1941 9 15 0w
   3600 c 1944 9 22 0w
   10800 R 1989 3 26 7200s
   7200 3600 1989 9 24 7200s
   7200 c 1998 9 22 0w
   7200 E 1999 10 31 14400w
   7200 0 2002 2 21 0w
   7200 E
   = Europe/Tirane
   4760 0 1914 1 1 0w
   3600 0 1940 6 16 0w
   3600 q 1984 7 1 0w
   3600 E
   = Europe/Ulyanovsk
   11616 0 1919 7 1 0u
   10800 0 1930 6 21 0w
   14400 R 1989 3 26 7200s
   10800 R 1991 3 31 7200s
   7200 R 1992 1 19 7200s
   10800 R 2011 3 27 7200s
   14400 0 2014 10 26 7200s
   10800 0 2016 3 27 7200s
   14400 0
   = Europe/Vienna
   3921 0 1893 4 1 0w
   3600 c 1920 1 1 0w
   3600 a 1940 4 1 7200s
   3600 c 1945 4 2 7200s
   3600 3600 1945 4 12 7200s
   3600 0 1946 1 1 0w
   3600 a 1981 1 1 0w
   3600 E
   = Europe/Vilnius
   6076 0 1880 1 1 0w
   5040 0 1917 1 1 0w
   5736 0 1919 10 10 0w
   3600 0 1920 7 12 0w
   7200 0 1920 10 9 0w
   3600 0 1940 8 3 0w
   10800 0 1941 6 24 0w
   3600 c 1944 8 1 0w
   10800 R 1989 3 26 7200s
   7200 R 1991 9 29 7200s
   7200 c 1998 1 1 0w
   7200 0 1998 3 29 3600u
   3600 E 1999 10 31 3600u
   7200 0 2003 1 1 0w
   7200 E
   = Europe/Volgograd
   10660 0 1920 1 3 0w
   10800 0 1930 6 21 0w
   14400 0 1961 11 11 0w
   14400 R 1988 3 27 7200s
   10800 R 1991 3 31 7200s
   14400 0 1992 3 29 7200s
   10800 R 2011 3 27 7200s
   14400 0 2014 10 26 7200s
   10800 0 2018 10 28 7200s
   14400 0 2020 12 27 7200s
   10800 0
   = Europe/Warsaw
   5040 0 1880 1 1 0w
   5040 0 1915 8 5 0w
   3600 c 1918 9 16 10800w
   7200 O 1922 6 1 0w
   3600 O 1940 6 23 7200w
   3600 c 1944 10 1 0w
   3600 O 1977 1 1 0w
   3600 W- 1988 1 1 0w
   3600 E
   = Europe/Zurich
   2048 0 1853 7 16 0w
   1786 0 1894 6 1 0w
   3600 CH 1981 1 1 0w
   3600 E
   = Indian/Chagos
   17380 0 1907 1 1 0w
   18000 0 1996 1 1 0w
   21600 0
   = Indian/Maldives
   17640 0 1880 1 1 0w
   17640 0 1960 1 1 0w
   18000 0
   = Indian/Mauritius
   13800 0 1907 1 1 0w
   14400 MU
   = Pacific/Apia
   45184 0 1892 7 5 0w
   -41216 0 1911 1 1 0w
   -41400 0 1950 1 1 0w
   -39600 WS 2011 12 29 86400w
   46800 WS
   = Pacific/Auckland
   41944 0 1868 11 2 0w
   41400 NZ 1946 1 1 0w
   43200 NZ
   = Pacific/Bougainville
   37336 0 1880 1 1 0w
   35312 0 1895 1 1 0w
   36000 0 1942 7 1 0w
   32400 0 1945 8 21 0w
   36000 0 2014 12 28 7200w
   39600 0
   = Pacific/Chatham
   44028 0 1868 11 2 0w
   44100 0 1946 1 1 0w
   45900 k
   = Pacific/Easter
   -26248 0 1890 1 1 0w
   -26248 0 1932 9 1 0w
   -25200 x 1982 3 14 10800u
   -21600 x
   = Pacific/Efate
   40396 0 1912 1 13 0w
   39600 VU
   = Pacific/Fakaofo
   -41096 0 1901 1 1 0w
   -39600 0 2011 12 30 0w
   46800 0
   = Pacific/Fiji
   42944 0 1915 10 26 0w
   43200 FJ
   = Pacific/Galapagos
   -21504 0 1931 1 1 0w
   -18000 0 1986 1 1 0w
   -21600 EC
   = Pacific/Gambier
   -32388 0 1912 10 1 0w
   -32400 0
   = Pacific/Guadalcanal
   38388 0 1912 10 1 0w
   39600 0
   = Pacific/Guam
   -51660 0 1844 12 31 0w
   34740 0 1901 1 1 0w
   36000 0 1941 12 10 0w
   32400 0 1944 7 31 0w
   36000 Gu 2000 12 23 0w
   36000 0
   = Pacific/Honolulu
   -37886 0 1896 1 13 43200w
   -37800 0 1933 4 30 7200w
   -37800 3600 1933 5 21 43200w
   -37800 u 1947 6 8 7200w
   -36000 0
   = Pacific/Kanton
   0 0 1937 8 31 0w
   -43200 0 1979 10 1 0w
   -39600 0 1994 12 31 0w
   46800 0
   = Pacific/Kiritimati
   -37760 0 1901 1 1 0w
   -38400 0 1979 10 1 0w
   -36000 0 1994 12 31 0w
   50400 0
   = Pacific/Kosrae
   -47284 0 1844 12 31 0w
   39116 0 1901 1 1 0w
   39600 0 1914 10 1 0w
   32400 0 1919 2 1 0w
   39600 0 1937 1 1 0w
   36000 0 1941 4 1 0w
   32400 0 1945 8 1 0w
   39600 0 1969 10 1 0w
   43200 0 1999 1 1 0w
   39600 0
   = Pacific/Kwajalein
   40160 0 1901 1 1 0w
   39600 0 1937 1 1 0w
   36000 0 1941 4 1 0w
   32400 0 1944 2 6 0w
   39600 0 1969 10 1 0w
   -43200 0 1993 8 20 86400w
   43200 0
   = Pacific/Marquesas
   -33480 0 1912 10 1 0w
   -34200 0
   = Pacific/Nauru
   40060 0 1921 1 15 0w
   41400 0 1942 8 29 0w
   32400 0 1945 9 8 0w
   41400 0 1979 2 10 7200w
   43200 0
   = Pacific/Niue
   -40780 0 1952 10 16 0w
   -40800 0 1964 7 1 0w
   -39600 0
   = Pacific/Norfolk
   40312 0 1901 1 1 0w
   40320 0 1951 1 1 0w
   41400 0 1974 10 27 7200s
   41400 3600 1975 3 2 7200s
   41400 0 2015 10 4 7200s
   39600 0 2019 7 1 0w
   39600 AN
   = Pacific/Noumea
   39948 0 1912 1 13 0w
   39600 NC
   = Pacific/Pago_Pago
   45432 0 1892 7 5 0w
   -40968 0 1911 1 1 0w
   -39600 0
   = Pacific/Palau
   -54124 0 1844 12 31 0w
   32276 0 1901 1 1 0w
   32400 0
   = Pacific/Pitcairn
   -31220 0 1901 1 1 0w
   -30600 0 1998 4 27 0w
   -28800 0
   = Pacific/Port_Moresby
   35320 0 1880 1 1 0w
   35312 0 1895 1 1 0w
   36000 0
   = Pacific/Rarotonga
   48056 0 1899 12 26 0w
   -38344 0 1952 10 16 0w
   -37800 0 1978 11 12 0w
   -36000 CK
   = Pacific/Tahiti
   -35896 0 1912 10 1 0w
   -36000 0
   = Pacific/Tarawa
   41524 0 1901 1 1 0w
   43200 0
   = Pacific/Tongatapu
   44352 0 1945 9 10 0w
   44400 0 1961 1 1 0w
   46800 0 1999 1 1 0w
   46800 TO"

end LogLayout.Time
